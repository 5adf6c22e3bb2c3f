import Highlighter.Proofs.Html.Expansion
import Highlighter.Proofs.Html.Markup

/-!
# What a reader sees of a tree

HTML is shown without its tags, and an entity is shown as the character that it stands for. Main statement: of a tree
that is made of texts, of spans, and of elements that put nothing but tags around their children, a reader sees the text
content.

An escaped text is shown as it was before, also if it looks like a tag or like an entity. A tag shows nothing, since
nothing in it can close it.
-/

namespace Highlighter

namespace Html

/-! ## Showing HTML -/

mutual

/-- HTML without its tags. -/
def withoutTags : List Char → List Char
  | [] => []
  | c :: text => if c = '<' then behindTag text else c :: withoutTags text

/-- What follows the tag that has been opened, without tags. -/
def behindTag : List Char → List Char
  | [] => []
  | c :: text => if c = '>' then withoutTags text else behindTag text

end

/-- A text with the characters that its entities stand for. What comes out of an entity is not read again. -/
def decodeEntities : List Char → List Char
  | [] => []
  | '&' :: 'a' :: 'm' :: 'p' :: ';' :: text => '&' :: decodeEntities text
  | '&' :: 'l' :: 't' :: ';' :: text => '<' :: decodeEntities text
  | '&' :: 'g' :: 't' :: ';' :: text => '>' :: decodeEntities text
  | '&' :: 'q' :: 'u' :: 'o' :: 't' :: ';' :: text => '"' :: decodeEntities text
  | c :: text => c :: decodeEntities text

/-- What a reader sees of HTML: the tags are deleted, then the entities are decoded. -/
def shown (html : String) : String := String.ofList (decodeEntities (withoutTags html.toList))

/-! ## Pieces of HTML -/

theorem withoutTags_append_of_not_mem {text : List Char} (h : '<' ∉ text) (rest : List Char) :
    withoutTags (text ++ rest) = text ++ withoutTags rest := by
  induction text with
  | nil => rfl
  | cons c text ih =>
    obtain ⟨hc, htext⟩ := not_or.mp (mt List.mem_cons.mpr h)
    rw [List.cons_append, withoutTags, if_neg (Ne.symm hc), ih htext, List.cons_append]

theorem behindTag_append_of_not_mem {text : List Char} (h : '>' ∉ text) (rest : List Char) :
    behindTag (text ++ '>' :: rest) = withoutTags rest := by
  induction text with
  | nil => simp [behindTag]
  | cons c text ih =>
    obtain ⟨hc, htext⟩ := not_or.mp (mt List.mem_cons.mpr h)
    rw [List.cons_append, behindTag, if_neg (Ne.symm hc), ih htext]

theorem decodeEntities_escapeTextChar (c : Char) (rest : List Char) :
    decodeEntities (escapeTextChar c ++ rest) = c :: decodeEntities rest := by
  unfold escapeTextChar
  split
  case h_1 => simp [decodeEntities]
  case h_2 => simp [decodeEntities]
  case h_3 => simp [decodeEntities]
  case h_4 hamp _ _ =>
    -- Only an ampersand begins an entity.
    rw [List.singleton_append, decodeEntities] <;> (intro _ hc; exact absurd hc hamp)

theorem decodeEntities_escaped (text rest : List Char) :
    decodeEntities (text.flatMap escapeTextChar ++ rest) = text ++ decodeEntities rest := by
  induction text with
  | nil => rfl
  | cons c text ih =>
    rw [List.flatMap_cons, List.append_assoc, decodeEntities_escapeTextChar, ih, List.cons_append]

/-- A piece of HTML that shows a text, whatever stands behind it. -/
def Shows (html text : String) : Prop :=
  ∃ bare : List Char, (∀ rest, withoutTags (html.toList ++ rest) = bare ++ withoutTags rest) ∧
    ∀ rest, decodeEntities (bare ++ rest) = text.toList ++ decodeEntities rest

namespace Shows

/-- Two pieces with the same characters show the same. -/
theorem of_toList {s t text : String} (h : Shows s text) (heq : t.toList = s.toList) : Shows t text := by
  rwa [String.toList_injective heq]

theorem empty : Shows "" "" := ⟨[], by simp, by simp⟩

theorem append {s t x y : String} (hs : Shows s x) (ht : Shows t y) : Shows (s ++ t) (x ++ y) := by
  obtain ⟨first, hfirst, hx⟩ := hs
  obtain ⟨second, hsecond, hy⟩ := ht
  refine ⟨first ++ second, fun rest => ?_, fun rest => ?_⟩
  · rw [String.toList_append, List.append_assoc, hfirst, hsecond, List.append_assoc]
  · rw [List.append_assoc, hx, hy, String.toList_append, List.append_assoc]

theorem escapeText (text : String) : Shows (escapeText text) text := by
  have hopening := (escaped_escapeText text).opening
  refine ⟨(Html.escapeText text).toList, withoutTags_append_of_not_mem hopening, fun rest => ?_⟩
  rw [Html.escapeText, String.toList_ofList, decodeEntities_escaped]

/-- A tag shows nothing. -/
theorem tag {inside : String} (h : '>' ∉ inside.toList) : Shows ("<" ++ inside ++ ">") "" := by
  refine ⟨[], fun rest => ?_, by simp⟩
  have hclose := behindTag_append_of_not_mem h rest
  simpa [withoutTags] using hclose

/-- Tags around a piece of HTML add nothing to what it shows. -/
theorem around {html text : String} (h : Shows html text) (opening closing : String)
    (hopening : '>' ∉ opening.toList) (hclosing : '>' ∉ closing.toList) :
    Shows ("<" ++ opening ++ ">" ++ html ++ ("<" ++ closing ++ ">")) text := by
  have hall := ((tag hopening).append h).append (tag hclosing)
  rwa [String.empty_append, String.append_empty] at hall

theorem shown_eq {html text : String} (h : Shows html text) : shown html = text := by
  obtain ⟨bare, hbare, htext⟩ := h
  have hdeleted := hbare []
  have hdecoded := htext []
  rw [withoutTags, List.append_nil, List.append_nil] at hdeleted
  rw [decodeEntities, List.append_nil, List.append_nil] at hdecoded
  rw [shown, hdeleted, hdecoded, String.ofList_toList]

end Shows

end Html

namespace Renderer

open Html

/-! ## Nodes -/

/-- A kind that has neither a handler nor a form. -/
structure IsUnknown (renderer : Renderer) (kind : String) : Prop where
  handler : renderer.handler? kind = none
  row : kind ≠ "tableRow"
  form : ∀ value attributes children, renderer.builtIn? kind value attributes children = none

/-- The kinds of the elements that are shown as their children with tags around them. -/
def wrapperKinds : List String := ["root", "emphasis", "strong", "delete", "link"]

/-- A node that puts nothing but tags around what it stands for: a text, a highlight, a wrapper that has no value,
inline code that has no children, or an element that the renderer knows nothing about. -/
def ShowsContent (renderer : Renderer) : Node → Prop
  | .text .. => True
  | .highlight .. => True
  | .element kind value _ children _ =>
    kind ∈ wrapperKinds ∧ value = none ∨ kind = "inlineCode" ∧ children = [] ∨ renderer.IsUnknown kind

theorem not_mem_escapeAttribute (text : String) : '>' ∉ (escapeAttribute text).toList :=
  (quotable_escapeAttribute text).1.closing

theorem not_mem_titleAttribute (attributes : Attributes) : '>' ∉ (titleAttribute attributes).toList := by
  unfold titleAttribute
  split
  · next title _ =>
    simp [not_mem_escapeAttribute title]
  · simp

theorem shows_styled (style : String) (node : Node) {children text : String} (h : Shows children text) :
    Shows (Handler.styled style node children) text := by
  have hopening : '>' ∉ ("span style=\"" ++ escapeAttribute style ++ "\"").toList := by
    simp [not_mem_escapeAttribute style]
  have hspan := h.around _ "/span" hopening (by decide)
  exact hspan.of_toList (by simp [Handler.styled])

theorem shows_link (attributes : Attributes) {children text : String} (h : Shows children text) :
    Shows ("<a href=\"" ++ escaped attributes "url" ++ "\"" ++ titleAttribute attributes ++ ">" ++ children
      ++ "</a>") text := by
  have hopening :
      '>' ∉ ("a href=\"" ++ escaped attributes "url" ++ "\"" ++ titleAttribute attributes).toList := by
    simp [escaped, not_mem_escapeAttribute, not_mem_titleAttribute]
  have hlink := h.around _ "/a" hopening (by decide)
  exact hlink.of_toList (by simp)

/-- A wrapper shows what its children show. -/
theorem shows_wrapper (renderer : Renderer) {kind : String} (hkind : kind ∈ wrapperKinds) (value : String)
    (attributes : Attributes) {children text : String} (h : Shows children text) :
    ∃ output, renderer.builtIn? kind value attributes children = some output ∧ Shows output text := by
  have hcases : kind = "root" ∨ kind = "emphasis" ∨ kind = "strong" ∨ kind = "delete" ∨ kind = "link" := by
    simpa [wrapperKinds] using hkind
  rcases hcases with rfl | rfl | rfl | rfl | rfl
  · exact ⟨_, rfl, h⟩
  · exact ⟨_, rfl, (h.around "em" "/em" (by decide) (by decide)).of_toList (by simp)⟩
  · exact ⟨_, rfl, (h.around "strong" "/strong" (by decide) (by decide)).of_toList (by simp)⟩
  · exact ⟨_, rfl, (h.around "del" "/del" (by decide) (by decide)).of_toList (by simp)⟩
  · exact ⟨_, rfl, shows_link attributes h⟩

theorem shows_inlineCode (value : String) : Shows ("<code>" ++ escapeText value ++ "</code>") value := by
  have hcode := (Shows.escapeText value).around "code" "/code" (by decide) (by decide)
  exact hcode.of_toList (by simp)

/-- A node that nothing is known about shows its children, or its value if it has none. -/
theorem shows_fallback (kind : String) (value : Option String) (attributes : Attributes) (nodes : List Node)
    (position : Option Position) {children : String} (h : Shows children (Node.textContents nodes)) :
    Shows (fallback (value.getD "") (!nodes.isEmpty) children)
      (Node.element kind value attributes nodes position).textContent := by
  cases nodes with
  | nil => simpa [fallback, Node.textContent] using Shows.escapeText (value.getD "")
  | cons node nodes =>
    have hdiv := h.around "div" "/div" (by decide) (by decide)
    simpa [fallback, Node.textContent] using hdiv.of_toList (by simp)

/-! ## Whole trees -/

variable (style : String) (allowHtml : Bool)

theorem ne_of_mem_wrapperKinds {kind : String} (h : kind ∈ wrapperKinds) :
    kind ≠ "highlight" ∧ kind ≠ "tableRow" := by
  have hall : ∀ other ∈ wrapperKinds, other ≠ "highlight" ∧ other ≠ "tableRow" := by decide
  exact hall kind h

/-- A node shows what it stands for if its children do. -/
theorem shows_render {node : Node} {children : List Node} (hnode : node.children? = some children)
    (hcontent : (highlighting style allowHtml).ShowsContent node)
    (h : Shows ((highlighting style allowHtml).renderAll children) (Node.textContents children)) :
    Shows ((highlighting style allowHtml).render node) node.textContent := by
  cases node with
  | text value position => cases hnode
  | highlight value own position =>
    obtain rfl := Option.some.inj hnode
    -- A highlight is written by the handler, and its style is part of a tag.
    rw [render_of_handler? _ (.highlight value own position) (handler?_highlighting style allowHtml "highlight"),
      inner_of_children? _ hnode, Node.textContent]
    exact shows_styled style _ h
  | element kind value attributes own position =>
    obtain rfl := Option.some.inj hnode
    rcases hcontent with ⟨hkind, rfl⟩ | ⟨rfl, rfl⟩ | hunknown
    · -- A wrapper writes tags around its children.
      obtain ⟨hhighlight, hrow⟩ := ne_of_mem_wrapperKinds hkind
      have hhandler : (highlighting style allowHtml).handler? kind = none := by
        rw [handler?_highlighting, if_neg hhighlight]
      obtain ⟨output, hform, houtput⟩ := shows_wrapper (highlighting style allowHtml) hkind "" attributes h
      rw [render_element hhandler hrow, Option.getD_none, hform, Node.textContent_element_none]
      exact houtput
    · -- Inline code writes its value, escaped, and has no children.
      have hhandler := handler?_highlighting style allowHtml "inlineCode"
      rw [render_element hhandler (by decide), Node.textContent]
      exact shows_inlineCode (value.getD "")
    · -- An unknown kind writes what it has, children or value.
      rw [render_element hunknown.handler hunknown.row, hunknown.form]
      exact shows_fallback kind value attributes own position h

theorem shows_renderAll {nodes : List Node}
    (h : ∀ node ∈ Node.forestNodes nodes, (highlighting style allowHtml).ShowsContent node) :
    Shows ((highlighting style allowHtml).renderAll nodes) (Node.textContents nodes) := by
  induction nodes using Node.forestInduction with
  | nil => simpa [Node.textContents] using Shows.empty
  | text value position nodes ih =>
    obtain ⟨-, hothers⟩ := List.forall_mem_cons.mp h
    have htext : (highlighting style allowHtml).render (.text value position) = escapeText value :=
      render_text (handler?_highlighting style allowHtml "text") value position
    -- A text is escaped, and what is escaped is shown as it was.
    rw [renderAll_cons, htext, Node.textContents, Node.textContent]
    exact (Shows.escapeText value).append (ih hothers)
  | parent node children nodes hchildren ihchildren ihnodes =>
    obtain ⟨hnode, hbelow, hothers⟩ := (Node.forall_mem_forestNodes_of_children? hchildren).mp h
    rw [renderAll_cons, Node.textContents]
    exact (shows_render style allowHtml hchildren hnode (ihchildren hbelow)).append (ihnodes hothers)

/-- **A reader sees exactly the text content.** If the nodes of a tree put nothing but tags around what they stand for, its
HTML without the tags and with the entities decoded is the text content of the tree. -/
theorem shown_render {tree : Node}
    (h : ∀ node ∈ tree :: tree.descendants, (highlighting style allowHtml).ShowsContent node) :
    shown ((highlighting style allowHtml).render tree) = tree.textContent := by
  have hall : Shows ((highlighting style allowHtml).renderAll [tree]) (Node.textContents [tree]) := by
    apply shows_renderAll
    simpa using h
  rw [renderAll_cons, renderAll_nil, String.append_empty, Node.textContents, Node.textContents,
    String.append_empty] at hall
  exact hall.shown_eq

/-- A tree with texts that look like tags and entities, in a link, in inline code, and in elements that nothing is known
of. -/
def taggedTexts : Node :=
  .element "root" none .empty
    [.text "a<b>&lt;/b&gt;" none,
      .element "link" none ((Attributes.empty.insert "url" (.text "\"><i>")).insert "title" (.text "'>&"))
        [.highlight "</span>" [.text "</span>&" none, .text "amp;" none] none] none,
      .element "inlineCode" (some "&amp;amp;") .empty [] none,
      .element "note" (some "unseen") .empty [.element "text" (some "</div>") .empty [] none] none] none

theorem shown_render_taggedTexts :
    (∀ node ∈ taggedTexts :: taggedTexts.descendants, (highlighting "\">" false).ShowsContent node) ∧
      shown ((highlighting "\">" false).render taggedTexts) = taggedTexts.textContent := by
  -- Neither kind has a handler or a form, whatever the style is.
  have hunknown : ∀ kind ∈ ["note", "text"], (highlighting "\">" false).IsUnknown kind := by
    intro kind hkind
    have hcases : kind = "note" ∨ kind = "text" := by simpa using hkind
    rcases hcases with rfl | rfl
    · exact ⟨handler?_highlighting .., by decide, fun _ _ _ => rfl⟩
    · exact ⟨handler?_highlighting .., by decide, fun _ _ _ => rfl⟩
  have hall : ∀ node ∈ taggedTexts :: taggedTexts.descendants, (highlighting "\">" false).ShowsContent node := by
    simp only [taggedTexts, Node.descendants_element, Node.descendants_highlight, Node.descendants_text,
      Node.forestNodes_cons, Node.forestNodes_nil, List.cons_append, List.nil_append, List.forall_mem_cons,
      ShowsContent]
    have hnote := hunknown "note" (by decide)
    have htext := hunknown "text" (by decide)
    simp [wrapperKinds, hnote, htext]
  exact ⟨hall, shown_render "\">" false hall⟩

end Renderer

end Highlighter
