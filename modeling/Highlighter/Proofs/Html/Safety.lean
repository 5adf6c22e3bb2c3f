import Highlighter.Proofs.Html.Markup
import Highlighter.Proofs.Html.Rendering
import Mathlib.Tactic.IntervalCases

/-!
# No content injects markup

Main statement: whatever the kinds, values and attributes of a tree are, its HTML is markup, if raw HTML is left out and
the handlers put styled spans around the children. The tags in it are those that the renderer writes: what comes
from the tree is escaped, and each tag is closed in the form that opens it.
-/

namespace Highlighter

namespace Html

namespace WellFormed

/-- Two texts with the same characters are one. -/
theorem of_toList {s t : String} (h : WellFormed s) (heq : t.toList = s.toList) : WellFormed t := by
  rwa [String.toList_injective heq]

theorem escapeText (text : String) : WellFormed (escapeText text) := .text (escaped_escapeText text)

/-- A line may end behind what is well-formed. -/
theorem line {s : String} (h : WellFormed s) : WellFormed (s ++ "\n") :=
  h.append (.text (.of_plain (by decide)))

/-- What is well-formed may begin on a line of its own. -/
theorem below {s : String} (h : WellFormed s) : WellFormed ("\n" ++ s) := empty.line.append h

/-- A tag without attributes. -/
theorem wrapped (name : String) (hname : name ∈ pairNames) {inner : String} (h : WellFormed inner) :
    WellFormed ("<" ++ name ++ ">" ++ inner ++ "</" ++ name ++ ">") := by
  have hpair := pair name hname (List.forall_mem_nil Field.Proper) h
  exact hpair.of_toList (by simp [Token.written, Tag.text])

/-- A tag with one attribute. -/
theorem attributed (name field : String) {value : String} (hname : name ∈ pairNames) (hfield : field ∈ attributeNames)
    (hvalue : Quotable value.toList) {inner : String} (h : WellFormed inner) :
    WellFormed ("<" ++ name ++ " " ++ field ++ "=\"" ++ value ++ "\">" ++ inner ++ "</" ++ name ++ ">") := by
  have hpair := pair name hname (List.forall_mem_singleton.mpr (Field.Proper.quoted hfield hvalue)) h
  exact hpair.of_toList (by simp [Token.written, Tag.text, Field.text])

end WellFormed

theorem quotable_of_plain {value : List Char} (h : value.all isPlain = true) (hquote : value.all (· != '"') = true) :
    Quotable value := by
  refine ⟨.of_plain h, ?_⟩
  intro hmem
  simpa using List.all_eq_true.mp hquote _ hmem

theorem Quotable.append {xs ys : List Char} (hx : Quotable xs) (hy : Quotable ys) : Quotable (xs ++ ys) := by
  refine ⟨hx.1.append hy.1, ?_⟩
  rw [List.mem_append]
  exact not_or.mpr ⟨hx.2, hy.2⟩

/-- A number has digits only. -/
theorem quotable_number (n : Nat) : Quotable (toString n).toList := by
  have hdigit : ∀ c ∈ (toString n).toList, c.isDigit = true := by
    intro c hc
    have hdigits : c ∈ Nat.toDigits 10 n := by simpa [Nat.toString_eq_repr, Nat.repr] using hc
    exact Nat.isDigit_of_mem_toDigits (by decide) (by decide) hdigits
  have hplain : ∀ c : Char, c.isDigit = true → isPlain c = true ∧ c ≠ '"' := by
    intro c hc
    rw [isPlain_iff]
    refine ⟨⟨?_, ?_, ?_⟩, ?_⟩ <;> (rintro rfl; simp at hc)
  apply quotable_of_plain
  · exact List.all_eq_true.mpr fun c hc => (hplain c (hdigit c hc)).1
  · exact List.all_eq_true.mpr fun c hc => bne_iff_ne.mpr (hplain c (hdigit c hc)).2

end Html

namespace Renderer

open Html

/-! ## Forms of elements -/

/-- The attribute with the title, if there is a title. -/
def titleFields (attributes : Attributes) : List Field :=
  ((attributes.text? "title").map fun title => ("title", some (escapeAttribute title))).toList

theorem titleAttribute_eq (attributes : Attributes) :
    titleAttribute attributes = String.join ((titleFields attributes).map Field.text) := by
  unfold titleAttribute titleFields
  cases attributes.text? "title" with
  | none => rfl
  | some title =>
    apply String.toList_injective
    simp [Field.text]

theorem proper_of_mem_titleFields (attributes : Attributes) :
    ∀ field ∈ titleFields attributes, field.Proper := by
  intro field hfield
  obtain ⟨title, -, rfl⟩ := Option.map_eq_some_iff.mp (Option.mem_toList.mp hfield)
  exact .quoted (by decide) (quotable_escapeAttribute title)

theorem wellFormed_checkBox (attributes : Attributes) : WellFormed (checkBox attributes) := by
  have hspace : WellFormed " " := .text (.of_plain (by decide))
  have hbox : ∀ fields : List Field, (∀ field ∈ fields, field.Proper) →
      WellFormed ((Token.void ⟨"input", ("type", some "checkbox") :: ("disabled", none) :: fields⟩).written ++ " ") := by
    intro fields hfields
    refine (WellFormed.void "input" (by decide) ?_).append hspace
    refine List.forall_mem_cons.mpr ⟨?_, List.forall_mem_cons.mpr ⟨.flag (by decide), hfields⟩⟩
    exact .quoted (by decide) (quotable_of_plain (by decide) (by decide))
  unfold checkBox
  split
  · exact hbox [("checked", none)] (List.forall_mem_singleton.mpr (.flag (by decide)))
  · exact hbox [] (by simp)
  · exact .empty

theorem wellFormed_list (attributes : Attributes) {children : String} (h : WellFormed children) :
    WellFormed (listOpening attributes ++ children ++ listClosing attributes) := by
  -- The tag that closes the list is chosen by the same attribute as the one that opens it.
  unfold listOpening listClosing
  by_cases hordered : (attributes.flag? "ordered").getD false = true
  · have hplain := (WellFormed.wrapped "ol" (by decide) h.below).line
    rw [if_pos hordered, if_pos hordered]
    split
    · next start _ =>
      have hstart := (WellFormed.attributed "ol" "start" (by decide) (by decide)
        (quotable_number start) h.below).line
      -- A list that starts at one is written without its start.
      split
      · exact hplain.of_toList (by simp)
      · exact hstart.of_toList (by simp)
    · exact hplain.of_toList (by simp)
  · have hplain := (WellFormed.wrapped "ul" (by decide) h.below).line
    rw [if_neg hordered, if_neg hordered]
    exact hplain.of_toList (by simp)

theorem headingTag_mem (attributes : Attributes) : headingTag attributes ∈ pairNames := by
  have hrange : ∀ depth, 1 ≤ depth → depth ≤ 6 → "h" ++ toString depth ∈ pairNames := by
    intro depth hlow hhigh
    interval_cases depth <;> decide
  apply hrange
  · omega
  · omega

theorem wellFormed_codeBlock (value : String) (attributes : Attributes) :
    WellFormed (codeBlock value attributes) := by
  have hvalue : WellFormed (Html.escapeText value ++ if value = "" then "" else "\n") := by
    split
    · exact (WellFormed.escapeText value).append .empty
    · exact (WellFormed.escapeText value).line
  unfold codeBlock
  cases attributes.text? "lang" with
  | some lang =>
    -- The prefix of the class needs no escape.
    have hclass : Quotable ("language-" ++ escapeAttribute lang).toList := by
      have hprefix : Quotable "language-".toList := quotable_of_plain (by decide) (by decide)
      rw [String.toList_append]
      exact hprefix.append (quotable_escapeAttribute lang)
    have hcode := WellFormed.attributed "code" "class" (by decide) (by decide) hclass hvalue
    exact (WellFormed.wrapped "pre" (by decide) hcode).line.of_toList (by simp)
  | none =>
    have hcode := WellFormed.wrapped "code" (by decide) hvalue
    exact (WellFormed.wrapped "pre" (by decide) hcode).line.of_toList (by simp)

theorem wellFormed_link (attributes : Attributes) {children : String} (h : WellFormed children) :
    WellFormed ("<a href=\"" ++ escaped attributes "url" ++ "\"" ++ titleAttribute attributes ++ ">"
      ++ children ++ "</a>") := by
  have hfields : ∀ field ∈ ("href", some (escaped attributes "url")) :: titleFields attributes, Field.Proper field :=
    List.forall_mem_cons.mpr
      ⟨.quoted (by decide) (quotable_escapeAttribute _), proper_of_mem_titleFields attributes⟩
  have hlink := WellFormed.pair "a" (by decide) hfields h
  exact hlink.of_toList (by simp [titleAttribute_eq, Token.written, Tag.text, Field.text])

theorem wellFormed_image (attributes : Attributes) :
    WellFormed ("<img src=\"" ++ escaped attributes "url" ++ "\" alt=\"" ++ escaped attributes "alt"
      ++ "\"" ++ titleAttribute attributes ++ " />") := by
  have hfields : ∀ field ∈ ("src", some (escaped attributes "url")) :: ("alt", some (escaped attributes "alt")) ::
      titleFields attributes, Field.Proper field := by
    simp only [List.forall_mem_cons]
    refine ⟨.quoted (by decide) ?_, .quoted (by decide) ?_, proper_of_mem_titleFields attributes⟩
    · exact quotable_escapeAttribute _
    · exact quotable_escapeAttribute _
  have himage := WellFormed.void "img" (by decide) hfields
  exact himage.of_toList (by simp [titleAttribute_eq, Token.written, Tag.text, Field.text])

theorem wellFormed_footnoteReference (attributes : Attributes) :
    WellFormed ("<sup><a href=\"#fn-" ++ escaped attributes "identifier" ++ "\">" ++ escaped attributes "identifier"
      ++ "</a></sup>") := by
  have hid := quotable_escapeAttribute ((attributes.text? "identifier").getD "")
  have hprefix : Quotable "#fn-".toList := quotable_of_plain (by decide) (by decide)
  have htarget : Quotable ("#fn-" ++ escaped attributes "identifier").toList := by
    rw [String.toList_append]
    exact hprefix.append hid
  have hlink := WellFormed.attributed "a" "href" (by decide) (by decide) htarget (.text hid.1)
  exact (WellFormed.wrapped "sup" (by decide) hlink).of_toList (by simp [escaped])

theorem wellFormed_footnoteDefinition (attributes : Attributes) {children : String} (h : WellFormed children) :
    WellFormed ("<div id=\"fn-" ++ escaped attributes "identifier" ++ "\">\n" ++ children ++ "</div>\n") := by
  have hprefix : Quotable "fn-".toList := quotable_of_plain (by decide) (by decide)
  have hid : Quotable ("fn-" ++ escaped attributes "identifier").toList := by
    rw [String.toList_append]
    exact hprefix.append (quotable_escapeAttribute _)
  have hnote := WellFormed.attributed "div" "id" (by decide) (by decide) hid h.below
  exact hnote.line.of_toList (by simp)

theorem wellFormed_math (name : String) (hname : Quotable ("language-math " ++ name).toList) (value : String) :
    WellFormed ("<code class=\"language-math " ++ name ++ "\">" ++ Html.escapeText value ++ "</code>") := by
  have hcode := WellFormed.attributed "code" "class" (by decide) (by decide) hname
    (.escapeText value)
  exact hcode.of_toList (by simp)

/-- The form of an element is markup if the HTML of its children is. -/
theorem wellFormed_builtIn? {renderer : Renderer} (hraw : renderer.allowHtml = false) {kind value : String}
    {attributes : Attributes} {children output : String} (hchildren : WellFormed children)
    (h : renderer.builtIn? kind value attributes children = some output) : WellFormed output := by
  have hvalue := WellFormed.escapeText value
  unfold builtIn? at h
  -- One case for each kind that has a form, in the order in which the renderer tries them.
  split at h <;> simp only [Option.some.injEq, reduceCtorEq] at h <;> subst h
  case h_1 => exact hchildren
  case h_2 => exact (WellFormed.wrapped "p" (by decide) hchildren).line.of_toList (by simp)
  case h_3 => exact (WellFormed.wrapped _ (headingTag_mem attributes) hchildren).line.of_toList (by simp)
  case h_4 => exact (WellFormed.wrapped "blockquote" (by decide) hchildren.below).line.of_toList (by simp)
  case h_5 => exact wellFormed_list attributes hchildren
  case h_6 =>
    have hitem := (wellFormed_checkBox attributes).append hchildren
    exact (WellFormed.wrapped "li" (by decide) hitem).line.of_toList (by simp)
  case h_7 => exact (WellFormed.wrapped "em" (by decide) hchildren).of_toList (by simp)
  case h_8 => exact (WellFormed.wrapped "strong" (by decide) hchildren).of_toList (by simp)
  case h_9 => exact (WellFormed.wrapped "del" (by decide) hchildren).of_toList (by simp)
  case h_10 => exact (WellFormed.wrapped "code" (by decide) hvalue).of_toList (by simp)
  case h_11 => exact wellFormed_codeBlock value attributes
  case h_12 =>
    exact (wellFormed_math "math-inline" (quotable_of_plain (by decide) (by decide)) value).of_toList (by simp)
  case h_13 =>
    have hcode := wellFormed_math "math-display" (quotable_of_plain (by decide) (by decide)) value
    exact (WellFormed.wrapped "pre" (by decide) hcode).line.of_toList (by simp)
  case h_14 => exact wellFormed_link attributes hchildren
  case h_15 => exact wellFormed_image attributes
  case h_16 => exact (WellFormed.void "hr" (by decide) (List.forall_mem_nil Field.Proper)).line
  case h_17 => exact (WellFormed.void "br" (by decide) (List.forall_mem_nil Field.Proper)).line
  case h_18 =>
    -- The one form that would write a value as it is.
    rw [hraw]
    exact .empty
  case h_19 => exact (WellFormed.wrapped "table" (by decide) hchildren.below).line.of_toList (by simp)
  case h_20 => exact wellFormed_footnoteReference attributes
  case h_21 => exact wellFormed_footnoteDefinition attributes hchildren

theorem wellFormed_fallback (value : String) (hasChildren : Bool) {children : String} (h : WellFormed children) :
    WellFormed (fallback value hasChildren children) := by
  unfold fallback
  split
  · exact (WellFormed.wrapped "div" (by decide) h).of_toList (by simp)
  · exact .escapeText value

theorem wellFormed_styled (style : String) (node : Node) {children : String} (h : WellFormed children) :
    WellFormed (Handler.styled style node children) := by
  have hspan := WellFormed.attributed "span" "style" (by decide) (by decide)
    (quotable_escapeAttribute style) h
  show WellFormed ("<span style=\"" ++ escapeAttribute style ++ "\">" ++ children ++ "</span>")
  exact hspan.of_toList (by simp)

/-! ## Whole trees -/

/-- A renderer that leaves raw HTML out, and of which each handler, for whatever kind, writes a styled span. -/
structure IsSafe (renderer : Renderer) : Prop where
  raw : renderer.allowHtml = false
  styled : ∀ entry ∈ renderer.handlers, ∃ style, entry.2 = Handler.styled style

theorem IsSafe.wellFormed_handler {renderer : Renderer} (h : renderer.IsSafe) {kind : String} {handler : Handler}
    (hkind : renderer.handler? kind = some handler) (node : Node) {children : String}
    (hchildren : WellFormed children) : WellFormed (handler node children) := by
  obtain ⟨style, rfl⟩ : ∃ style, handler = Handler.styled style := h.styled _ (mem_of_handler? hkind)
  exact wellFormed_styled style node hchildren

theorem wellFormed_cell {tag : String} (htag : tag = "th" ∨ tag = "td") {content : String}
    (h : WellFormed content) : WellFormed (cell tag content) := by
  have hname : tag ∈ pairNames := by
    rcases htag with rfl | rfl <;> decide
  exact (WellFormed.wrapped tag hname h).line.of_toList (by simp [cell])

/-- A node is markup if its children and the cells that they make are. -/
theorem IsSafe.wellFormed_render {renderer : Renderer} (h : renderer.IsSafe) {node : Node}
    (hchildren : WellFormed (renderer.inner node))
    (hcells : ∀ tag, tag = "th" ∨ tag = "td" → WellFormed (renderer.renderCells tag (node.children?.getD []))) :
    WellFormed (renderer.render node) := by
  cases hkind : renderer.handler? node.kind with
  | some handler =>
    rw [renderer.render_of_handler? node hkind]
    exact h.wellFormed_handler hkind node hchildren
  | none =>
    rw [renderer.render_of_not_handler? node hkind]
    -- A row writes its cells itself, and every other kind is given the HTML of its children.
    by_cases hrow : node.kind = "tableRow"
    · have htag : cellTag node.attributes = "th" ∨ cellTag node.attributes = "td" := by
        unfold cellTag
        split
        · exact .inl rfl
        · exact .inr rfl
      have hcontent := (hcells _ htag).below
      rw [if_pos hrow]
      exact (WellFormed.wrapped "tr" (by decide) hcontent).line.of_toList (by simp)
    · rw [if_neg hrow]
      -- A kind that has no form is written by what all unknown kinds have in common.
      cases hform : renderer.builtIn? node.kind (node.value?.getD "") node.attributes (renderer.inner node) with
      | some output => exact wellFormed_builtIn? h.raw hchildren hform
      | none => exact wellFormed_fallback _ _ hchildren

theorem IsSafe.wellFormed_renderAll {renderer : Renderer} (h : renderer.IsSafe) (nodes : List Node) :
    WellFormed (renderer.renderAll nodes) ∧
      ∀ tag, tag = "th" ∨ tag = "td" → WellFormed (renderer.renderCells tag nodes) := by
  -- A row reaches through its cells to their children, so the cells are carried along with the HTML.
  induction nodes using Node.siblingInduction with
  | nil => simp [WellFormed.empty]
  | cons node nodes ihbelow ihnodes =>
    have hnode := h.wellFormed_render ihbelow.1 ihbelow.2
    simp only [renderAll_cons, renderCells_cons]
    refine ⟨hnode.append ihnodes.1, fun tag htag => ?_⟩
    exact (wellFormed_cell htag ihbelow.1).append (ihnodes.2 tag htag)

/-- **No content injects markup.** Whatever the tree, the output of a safe renderer is made of escaped texts and of nested
tags that the renderer knows, and its brackets and ampersands belong to them. -/
theorem markup_render {renderer : Renderer} (h : renderer.IsSafe) (tree : Node) :
    ∃ tokens, Markup (renderer.render tree) tokens := by
  obtain ⟨hall, -⟩ := h.wellFormed_renderAll [tree]
  rw [renderAll_cons, renderAll_nil, String.append_empty] at hall
  obtain ⟨tokens, hwritten, hnested, hproper⟩ := hall
  refine ⟨tokens, ?_⟩
  rw [← hwritten]
  exact markup_write hnested hproper

/-- A renderer with a style that would close its attribute, and with texts in styled spans too. -/
def hostileRenderer : Renderer := standard.register "text" (.styled "\"><script>&")

/-- A tree that would write markup if anything of it was written as it is. -/
def hostileTree : Node :=
  .element "root" none .empty
    [.element "html" (some "</p><script>") .empty [] none,
      .element "link" none ((Attributes.empty.insert "url" (.text "\"><b>")).insert "title" (.text "'&\""))
        [.highlight "x" [.text "</span>" none] none] none,
      .element "tableRow" none .empty [.element "<td>" (some "&") .empty [] none, .text "<" none] none,
      .element "/><" (some "&lt;<!--") .empty [] none] none

theorem markup_render_hostileTree :
    hostileRenderer.IsSafe ∧ ∃ tokens, Markup (hostileRenderer.render hostileTree) tokens := by
  have h : hostileRenderer.IsSafe := by
    refine ⟨rfl, ?_⟩
    intro entry hentry
    have hcases : entry = ("text", .styled "\"><script>&") ∨ entry = ("highlight", .styled defaultStyle) := by
      simpa [hostileRenderer, standard, plain, register] using hentry
    rcases hcases with rfl | rfl
    · exact ⟨_, rfl⟩
    · exact ⟨_, rfl⟩
  exact ⟨h, markup_render h hostileTree⟩

end Renderer

end Highlighter
