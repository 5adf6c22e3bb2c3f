import Highlighter.Proofs.Builder.Forest
import Highlighter.Proofs.Builder.Texts
import Highlighter.Proofs.Html.Rendering

/-!
# The HTML of code blocks

A code block drops the newline that ends its text, and the HTML gets a newline back behind a value that is not empty. Main
statement: where the text of a code block is empty or ends with a newline, its HTML has exactly this text between the tags,
unless the text is one newline and nothing else.

Then the value is empty as if there had been no text, so the one blank line of such a block is lost.
-/

namespace Highlighter

/-! ## From events to an element -/

/-- The element of a code block with a value. -/
def codeElement (info : Option String) (value : String) (position : Position) : Node :=
  .element "code" (some value) (Tag.codeBlock info).attributes [] (some position)

namespace Builder

/-- In a literal container, fragments end up in the buffer one behind the other. -/
theorem feedAll_textEvents_of_literal {builder : Builder} (h : builder.top.literal ≠ .children)
    (fragments : List (String × ByteRange)) :
    builder.feedAll (textEvents fragments) =
      { builder with top :=
        { builder.top with buffer := builder.top.buffer ++ String.join (fragments.map (·.1)) } } := by
  induction fragments generalizing builder with
  | nil => simp [textEvents]
  | cons fragment fragments ih =>
    -- The buffer grows by the fragment, and the container stays literal, so the induction goes on with it.
    have hfeed : builder.feed (.text fragment.1) fragment.2 =
        { builder with top := { builder.top with buffer := builder.top.buffer ++ fragment.1 } } := by
      have hpart := OpenElement.addPart_of_literal h
        (.fragment fragment.1 (builder.index.position fragment.2.start fragment.2.stop))
      exact congrArg (fun top => { builder with top := top }) hpart
    rw [textEvents, List.map_cons, feedAll_cons, ← textEvents, hfeed, ih (by exact h), List.map_cons,
      String.join_cons, String.append_assoc]

/-- A code block adds one element, whose value is the text without the newline at its end. -/
theorem feedAll_codeBlock (builder : Builder) (info : Option String) (opening closing : ByteRange)
    (fragments : List (String × ByteRange)) :
    let value := dropFinalNewline (String.join (fragments.map (·.1)))
    let element := codeElement info value (builder.index.position opening.start opening.stop)
    builder.feedAll ((.openTag (.codeBlock info), opening) :: (textEvents fragments ++ [(.closeTag, closing)])) =
      { builder with top := builder.top.addNode element value } := by
  intro value element
  have hopen : (builder.feed (.openTag (.codeBlock info)) opening).top.literal ≠ .children := by
    simp [feed, openTag, OpenElement.ofTag, Tag.literal]
  rw [feedAll_cons, feedAll_append, feedAll_textEvents_of_literal hopen]
  simp [feed, openTag, closeTag, OpenElement.close, OpenElement.ofTag, Tag.literal, Tag.kind, Node.textContent,
    codeElement, element, value]

end Builder

/-! ## From the element to HTML -/

theorem dropFinalNewline_append (front : String) : dropFinalNewline (front ++ "\n") = front := by
  rw [dropFinalNewline_eq, String.toList_append]
  simp

/-- The language of a code block: the first word of its info string, if it has one. -/
def Tag.infoWord (info : Option String) : List Char := (info.map fun info => (infoParts info).1).getD []

/-- The tags in front of the text of a code block. -/
def codeOpening (info : Option String) : String :=
  match Tag.infoWord info with
  | [] => "<pre><code>"
  | word => "<pre><code class=\"language-" ++ Html.escapeAttribute (String.ofList word) ++ "\">"

/-- The tags behind the text of a code block. -/
def codeClosing : String := "</code></pre>\n"

theorem Tag.text?_lang_attributes (info : Option String) :
    (Tag.codeBlock info).attributes.text? "lang" =
      match infoWord info with
      | [] => none
      | word => some (String.ofList word) := by
  cases info with
  | none => rfl
  | some info =>
    have hlang : (if (infoParts info).1.isEmpty then Attributes.empty
        else Attributes.empty.insert "lang" (.text (String.ofList (infoParts info).1))).text? "lang" =
        match infoWord (some info) with
        | [] => none
        | word => some (String.ofList word) := by
      rw [infoWord, Option.map_some, Option.getD_some]
      cases (infoParts info).1 with
      | nil => rfl
      | cons c word => simp [Attributes.text?, Attributes.get?_insert_self]
    simp only [attributes, infoAttributes]
    -- What follows the first word is put in under another name.
    split
    · exact hlang
    · rw [Attributes.text?, Attributes.get?_insert_of_ne _ (by decide)]
      exact hlang

theorem Renderer.render_codeElement {renderer : Renderer} (h : renderer.handler? "code" = none)
    (info : Option String) (value : String) (position : Position) :
    renderer.render (codeElement info value position) =
      codeOpening info ++ (Html.escapeText value ++ if value = "" then "" else "\n") ++ codeClosing := by
  have hform : renderer.render (codeElement info value position) = codeBlock value (Tag.codeBlock info).attributes :=
    render_element h (by decide) ..
  simp only [hform, codeBlock, Tag.text?_lang_attributes, codeOpening, codeClosing]
  cases Tag.infoWord info with
  | nil => simp only [String.append_assoc]
  | cons c word => simp only [String.append_assoc]

/-- The newline that was dropped is written back, if there was more than this newline. -/
theorem escapeText_dropFinalNewline {text : String} (h : text = "" ∨ ∃ front, text = front ++ "\n") :
    (Html.escapeText (dropFinalNewline text) ++ if dropFinalNewline text = "" then "" else "\n") =
      Html.escapeText (if text = "\n" then "" else text) := by
  rcases h with rfl | ⟨front, rfl⟩
  · rfl
  · rw [dropFinalNewline_append]
    -- A single newline is dropped for good, since nothing is left that a newline could be written behind.
    by_cases hfront : front = ""
    · subst hfront
      rfl
    · have hmore : front ++ "\n" ≠ "\n" := by simpa using hfront
      rw [if_neg hfront, if_neg hmore, Html.escapeText_append]
      rfl

/-- **The final newline of a code block comes back.** Whatever is open, a code block with these fragments adds one element.
If their text is empty or ends with a newline, the element is written as the tags around exactly this text, escaped; only a
text that is one newline is written like an empty one. -/
theorem Builder.render_feedAll_codeBlock {renderer : Renderer} (hcode : renderer.handler? "code" = none)
    (builder : Builder) (info : Option String) (opening closing : ByteRange) (fragments : List (String × ByteRange))
    {text : String} (htext : String.join (fragments.map (·.1)) = text)
    (hlines : text = "" ∨ ∃ front, text = front ++ "\n") :
    let value := dropFinalNewline text
    let element := codeElement info value (builder.index.position opening.start opening.stop)
    builder.feedAll ((.openTag (.codeBlock info), opening) :: (textEvents fragments ++ [(.closeTag, closing)])) =
        { builder with top := builder.top.addNode element value } ∧
      renderer.render element =
        codeOpening info ++ Html.escapeText (if text = "\n" then "" else text) ++ codeClosing ∧
      (renderer.render element = codeOpening info ++ Html.escapeText text ++ codeClosing ↔ text ≠ "\n") := by
  intro value element
  have hrender : renderer.render element =
      codeOpening info ++ Html.escapeText (if text = "\n" then "" else text) ++ codeClosing := by
    rw [← escapeText_dropFinalNewline hlines]
    exact Renderer.render_codeElement hcode info value _
  refine ⟨?_, hrender, ?_⟩
  · subst htext
    exact builder.feedAll_codeBlock info opening closing fragments
  · rw [hrender]
    constructor
    · rintro hsame rfl
      -- The text between the tags is one character too short.
      have hlength := congrArg String.length hsame
      simp [Html.escapeText, Html.escapeTextChar] at hlength
    · intro hmore
      rw [if_neg hmore]

/-- A code block of blank lines, cut inside a line break, with an info string that would close its attribute. -/
theorem Builder.render_feedAll_codeBlock_blankLines :
    let builder := Builder.start (LineIndex.ofSource "``` \"> x\n\n\n```\n")
    let fragments := [("\n", ⟨9, 10⟩), ("", ⟨10, 10⟩), ("\n", ⟨10, 11⟩)]
    let element := codeElement (some "\"> x") "\n" (builder.index.position 0 14)
    Renderer.standard.handler? "code" = none ∧ String.join (fragments.map (·.1)) = "\n\n" ∧
      builder.feedAll ((.openTag (.codeBlock (some "\"> x")), ⟨0, 14⟩) ::
          (textEvents fragments ++ [(.closeTag, ⟨0, 14⟩)])) =
        { builder with top := builder.top.addNode element "\n" } ∧
      Renderer.standard.render element =
        "<pre><code class=\"language-&quot;&gt;\">" ++ Html.escapeText "\n\n" ++ codeClosing := by
  intro builder fragments element
  have hcode : Renderer.standard.handler? "code" = none := by decide
  have htext : String.join (fragments.map (·.1)) = "\n\n" := by decide
  -- The text ends with a newline, and the code block keeps all of it but that.
  have hblock := builder.render_feedAll_codeBlock hcode (some "\"> x") ⟨0, 14⟩ ⟨0, 14⟩ fragments htext
    (.inr ⟨"\n", by decide⟩)
  exact ⟨hcode, htext, hblock.1, hblock.2.1⟩

/-- The one blank line of a code block is lost. -/
theorem Builder.not_render_feedAll_codeBlock :
    let index := LineIndex.ofSource "```\n\n```\n"
    let element := codeElement (some "") "" (index.position 0 8)
    (treeOfEvents "```\n\n```\n"
          [(.openTag (.codeBlock (some "")), ⟨0, 8⟩), (.text "\n", ⟨4, 5⟩), (.closeTag, ⟨0, 8⟩)]).value =
        .element "root" none .empty [element] (some (index.position 0 9)) ∧
      Renderer.plain.render element = "<pre><code></code></pre>\n" ∧
      Renderer.plain.render element ≠ codeOpening (some "") ++ Html.escapeText "\n" ++ codeClosing := by
  refine ⟨?_, ?_, ?_⟩
  · decide +kernel
  · decide +kernel
  · decide +kernel

end Highlighter
