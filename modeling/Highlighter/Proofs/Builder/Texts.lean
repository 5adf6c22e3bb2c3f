import Highlighter.Proofs.Builder.Steps

/-!
# Texts in the builder

How the texts of events get into the tree. Main statements: it does not matter into how many fragments a text is cut,
and the tree stands for the texts of all events in order, whether the containers are balanced or not, unless there
are images, which keep their text in an attribute, or code blocks, which drop a final newline.

Any state of the builder takes two fragments like one. For the order of the texts, what counts is the text that is
held by all open containers, the outermost first: each event puts its own text at the end of it, and closing a container
only moves text to the one around it.
-/

namespace Highlighter

/-! ## Fragments -/

theorem Part.fragment_onto_fragment (value more : String) (position next : Position)
    (children : List Node) :
    (fragment more next).onto ((fragment value position).onto children) =
      (fragment (value ++ more) (position.extendTo next)).onto children := by
  rcases fragment_onto_cases value position children with
    ⟨before, own, earlier, rfl, honto⟩ | ⟨hhead, honto⟩
  · rw [honto]
    cases own <;> simp [onto, String.append_assoc, Position.extendTo]
  · rw [honto, fragment_onto hhead]
    simp [onto]

/-- An open container takes two fragments like one. -/
theorem OpenElement.addPart_fragment_fragment (element : OpenElement) (value more : String)
    (position next : Position) :
    (element.addPart (.fragment value position)).addPart (.fragment more next) =
      element.addPart (.fragment (value ++ more) (position.extendTo next)) := by
  by_cases h : element.literal = .children
  · have hfirst : (element.addPart (.fragment value position)).literal = .children := by
      rwa [literal_addPart]
    rw [addPart_of_children hfirst, addPart_of_children h, addPart_of_children h,
      Part.fragment_onto_fragment]
  · have hfirst : (element.addPart (.fragment value position)).literal ≠ .children := by
      rwa [literal_addPart]
    rw [addPart_of_literal hfirst, addPart_of_literal h, addPart_of_literal h]
    simp [String.append_assoc]

/-- The events of texts that follow one another. -/
def textEvents (fragments : List (String × ByteRange)) : List (Event × ByteRange) :=
  fragments.map fun fragment => (.text fragment.1, fragment.2)

namespace Builder

theorem feed_text_text (builder : Builder) (value more : String) (range next : ByteRange) :
    (builder.feed (.text value) range).feed (.text more) next =
      builder.feed (.text (value ++ more)) ⟨range.start, next.stop⟩ := by
  have hpart := builder.top.addPart_fragment_fragment value more
    (builder.index.position range.start range.stop) (builder.index.position next.start next.stop)
  simp only [feed]
  exact congrArg (fun top => { builder with top := top }) hpart

/-- A builder takes fragments like the one text that they make, from where the first starts to where the last ends. -/
theorem feedAll_textEvents (builder : Builder) (first : String × ByteRange)
    (others : List (String × ByteRange)) :
    builder.feedAll (textEvents (first :: others)) =
      builder.feed (.text (String.join ((first :: others).map (·.1))))
        ⟨first.2.start, (others.getLast?.getD first).2.stop⟩ := by
  induction others generalizing first with
  | nil => simp [textEvents]
  | cons second others ih =>
    -- The first two fragments make one, with which the others go on.
    have hmerged := ih (first.1 ++ second.1, ⟨first.2.start, second.2.stop⟩)
    simp only [textEvents, List.map_cons, feedAll_cons, String.join_cons, String.append_assoc] at hmerged ⊢
    rw [feed_text_text, hmerged, List.getLast?_cons, Option.getD_some]
    cases others.getLast? <;> rfl

end Builder

/-- **Fragments do not matter.** Where fragments follow one another in a stream of events, balanced or not, one text in
their place gives the same tree and the same records. -/
theorem treeOfEvents_textEvents (source : String) (before after : List (Event × ByteRange))
    (first : String × ByteRange) (others : List (String × ByteRange)) :
    treeOfEvents source (before ++ textEvents (first :: others) ++ after) =
      treeOfEvents source (before ++
        (.text (String.join ((first :: others).map (·.1))),
          ⟨first.2.start, (others.getLast?.getD first).2.stop⟩) :: after) := by
  simp only [treeOfEvents, Builder.feedAll_append, Builder.feedAll_textEvents, Builder.feedAll_cons]

/-! ## The text of open containers -/

/-- The text that an event writes. -/
def Event.payload : Event → String
  | .text value => value
  | .code value => value
  | .inlineMath value => value
  | .displayMath value => value
  | .html value => value
  | .inlineHtml value => value
  | .softBreak => "\n"
  | .openTag _ => ""
  | .closeTag => ""
  | .footnoteReference _ => ""
  | .hardBreak => ""
  | .rule => ""
  | .taskMarker _ => ""

theorem Event.text_of_part? {position : Position} {event : Event} {part : Part}
    (h : event.part? position = some part) : part.text = event.payload := by
  cases event <;> simp only [part?, Option.some.injEq, reduceCtorEq] at h <;> subst h
  all_goals simp [payload]

theorem Part.textContents_onto (part : Part) (children : List Node) :
    Node.textContents (part.onto children).reverse = Node.textContents children.reverse ++ part.text := by
  cases part with
  | node child proper => simp [onto, Node.textContents_append, Node.textContents]
  | fragment value position =>
    rcases fragment_onto_cases value position children with
      ⟨before, own, earlier, rfl, honto⟩ | ⟨-, honto⟩
    · simp [honto, Node.textContents_append, Node.textContents, Node.textContent, String.append_assoc]
    · simp [honto, Node.textContents_append, Node.textContents, Node.textContent]

namespace OpenElement

/-- The text that an open container holds. -/
def text (element : OpenElement) : String := Node.textContents element.reversed.reverse ++ element.buffer

/-- A container shows its text if it makes children of it, or takes it for its value as it is. -/
def ShowsText (element : OpenElement) : Prop :=
  element.literal = .children ∧ element.buffer = "" ∨
    element.literal = .value ∧ element.reversed = [] ∧ element.kind ≠ "code"

theorem ShowsText.addPart {element : OpenElement} (h : element.ShowsText) (part : Part) :
    (element.addPart part).ShowsText := by
  rcases h with ⟨hliteral, hbuffer⟩ | ⟨hliteral, hreversed, hkind⟩
  · rw [addPart_of_children hliteral]
    exact .inl ⟨hliteral, hbuffer⟩
  · rw [addPart_of_literal (by simp [hliteral])]
    exact .inr ⟨hliteral, hreversed, hkind⟩

theorem ShowsText.text_addPart {element : OpenElement} (h : element.ShowsText) (part : Part) :
    (element.addPart part).text = element.text ++ part.text := by
  rcases h with ⟨hliteral, hbuffer⟩ | ⟨hliteral, hreversed, hkind⟩
  · rw [addPart_of_children hliteral]
    simp only [text, hbuffer, Part.textContents_onto, String.append_empty]
  · rw [addPart_of_literal (by simp [hliteral])]
    simp only [text, String.append_assoc]

/-- A container that shows its text stands for it when it is closed. -/
theorem ShowsText.text_part {element : OpenElement} (h : element.ShowsText) :
    element.part.text = element.text := by
  rw [part, Part.text_node]
  rcases h with ⟨hliteral, hbuffer⟩ | ⟨hliteral, hreversed, hkind⟩
  · simp only [close, hliteral, Node.textContent_element_none, text, hbuffer, String.append_empty]
  · simp [close, hliteral, hkind, hreversed, text, Node.textContent, Node.textContents]

end OpenElement

/-- Whether the containers of a tag show their text. -/
def Tag.showsText : Tag → Bool
  | .image .. => false
  | .codeBlock _ => false
  | _ => true

theorem OpenElement.showsText_ofTag {tag : Tag} (h : tag.showsText = true) (position : Position) :
    (ofTag tag position).ShowsText := by
  cases tag
  case image url title => cases h
  case codeBlock info => cases h
  case htmlBlock => exact .inr ⟨rfl, rfl, by simp [ofTag, Tag.kind]⟩
  all_goals exact .inl ⟨rfl, rfl⟩

theorem showsText_invariant : Invariant (·.showsText = true) OpenElement.ShowsText fun _ => True where
  opened _ position h := OpenElement.showsText_ofTag h position
  checked _ _ h := h
  added _ part h _ := h.addPart part
  closed _ _ := trivial
  given _ _ _ _ := trivial

/-- The text that open containers hold, the innermost container first. -/
def stackText : List OpenElement → String
  | [] => ""
  | element :: outer => stackText outer ++ element.text

theorem stackText_markTask (checked : Bool) (stack : List OpenElement) :
    stackText (markTask checked stack) = stackText stack := by
  induction stack with
  | nil => rfl
  | cons element outer ih =>
    rw [markTask]
    split
    · rfl
    · rw [stackText, ih, stackText]

namespace Builder

/-- A step puts the text of its event behind the text that the open containers hold. -/
theorem Step.stackText_eq {builder next : Builder} {position : Position} {event : Event}
    (hstep : builder.Step position event next) (h : ∀ element ∈ builder.stack, element.ShowsText) :
    stackText next.stack = stackText builder.stack ++ event.payload := by
  obtain ⟨htop, houter⟩ := List.forall_mem_cons.mp h
  cases hstep with
  | opened tag => rfl
  | kept last =>
    rw [Event.payload, String.append_empty]
    rfl
  | closed parent outer around =>
    -- The text moves from the top to the end of what is around it, where it stood before.
    rw [around] at houter
    have hparent := houter parent (List.mem_cons_self ..)
    rw [Event.payload, String.append_empty, stack, stack, around]
    simp only [stackText, hparent.text_addPart, htop.text_part, String.append_assoc]
  | marked checked => rw [stack_mark, stackText_markTask, Event.payload, String.append_empty]
  | added event part given =>
    rw [← Event.text_of_part? given, stack, stack]
    simp only [addPart, stackText, htop.text_addPart, String.append_assoc]

theorem stackText_feedAll {builder : Builder} (h : ∀ element ∈ builder.stack, element.ShowsText)
    {events : List (Event × ByteRange)}
    (htags : ∀ event ∈ events, ∀ tag, event.1 = .openTag tag → tag.showsText = true) :
    stackText (builder.feedAll events).stack =
      stackText builder.stack ++ String.join (events.map (·.1.payload)) := by
  induction events generalizing builder with
  | nil => simp
  | cons event events ih =>
    obtain ⟨hfirst, hothers⟩ := List.forall_mem_cons.mp htags
    have hstep := builder.step_feed event.1 event.2
    rw [feedAll_cons, ih (showsText_invariant.step hstep h hfirst) hothers, hstep.stackText_eq h,
      List.map_cons, String.join_cons, String.append_assoc]

/-- Closing what is open keeps the text. -/
theorem textContent_closeAll {top : OpenElement} {outer : List OpenElement}
    (h : ∀ element ∈ top :: outer, element.ShowsText) :
    (closeAll top outer).textContent = stackText (top :: outer) := by
  -- Each container that is closed puts its text behind that of the next one, which is then the top.
  induction outer generalizing top with
  | nil =>
    have htop := h top (List.mem_cons_self ..)
    rw [closeAll, stackText, stackText, String.empty_append]
    exact htop.text_part
  | cons parent outer ih =>
    obtain ⟨htop, houter⟩ := List.forall_mem_cons.mp h
    obtain ⟨hparent, hothers⟩ := List.forall_mem_cons.mp houter
    have hnext : ∀ element ∈ parent.addPart top.part :: outer, element.ShowsText :=
      List.forall_mem_cons.mpr ⟨hparent.addPart _, hothers⟩
    have hclose := ih hnext
    simp only [stackText, hparent.text_addPart, htop.text_part] at hclose ⊢
    rw [String.append_assoc, ← hclose]
    rfl

end Builder

/-- **No text is lost, doubled or moved.** If events open no image and no code block, the tree they leave stands for
the texts of all of them in order. -/
theorem textContent_treeOfEvents (source : String) {events : List (Event × ByteRange)}
    (h : ∀ event ∈ events, ∀ tag, event.1 = .openTag tag → tag.showsText = true) :
    (treeOfEvents source events).value.textContent = String.join (events.map (·.1.payload)) := by
  have hstart : ∀ element ∈ (Builder.start (LineIndex.ofSource source)).stack, element.ShowsText :=
    List.forall_mem_singleton.mpr (.inl ⟨rfl, rfl⟩)
  have hstack := showsText_invariant.feedAll hstart h
  have htext := Builder.stackText_feedAll hstart h
  rw [treeOfEvents, Builder.finish, Builder.textContent_closeAll hstack]
  refine htext.trans ?_
  simp [stackText, OpenElement.text, Builder.start, Builder.stack, Node.textContents]

/-- A stream with an end before any start, an emphasis inside raw HTML, and containers that stay open. -/
def unbalancedEvents : List (Event × ByteRange) :=
  [(.closeTag, ⟨0, 0⟩), (.openTag .htmlBlock, ⟨0, 9⟩), (.html "<p>", ⟨0, 3⟩),
    (.openTag .emphasis, ⟨3, 6⟩), (.text "a", ⟨4, 5⟩), (.closeTag, ⟨3, 6⟩), (.softBreak, ⟨6, 7⟩),
    (.openTag .item, ⟨7, 9⟩), (.taskMarker true, ⟨7, 8⟩), (.code "b", ⟨8, 9⟩)]

theorem textContent_unbalancedEvents :
    (∀ event ∈ unbalancedEvents, ∀ tag, event.1 = .openTag tag → tag.showsText = true) ∧
      (treeOfEvents "<p>*a*\n[x]" unbalancedEvents).value.textContent = "<p>a\nb" := by
  have h : ∀ event ∈ unbalancedEvents, ∀ tag, event.1 = .openTag tag → tag.showsText = true := by
    simp [unbalancedEvents, Tag.showsText]
  exact ⟨h, textContent_treeOfEvents _ h⟩

end Highlighter
