import Highlighter.Proofs.Builder.Steps
import Highlighter.Proofs.Document.Siblings

/-!
# The shape of a built tree

What holds of the open containers in every run, and so of the tree that is left. Main statements: the steps could
as well be made on a stack that may run empty, for it never does; the outermost container is always the root; and
no two texts of the tree are neighbours, and all its nodes are positioned.
-/

namespace Highlighter

/-! ## A stack that may run empty -/

namespace OpenElement

/-- Changes the innermost of some open containers, if there is one. -/
def onTop? (change : OpenElement → OpenElement) : List OpenElement → Option (List OpenElement)
  | [] => none
  | top :: outer => some (change top :: outer)

/-- Takes the innermost of some open containers away, and adds it to the next one, if there is one. The last one
is left alone. -/
def close? (stack : List OpenElement) : Option (List OpenElement) :=
  if stack.length < 2 then some stack
  else
    match stack with
    | [] => none
    | top :: outer => onTop? (·.addPart top.part) outer

/-- Takes one event with its range, unless it needs an open container and there is none. -/
def feed? (index : LineIndex) (stack : List OpenElement) (event : Event × ByteRange) :
    Option (List OpenElement) :=
  let position := index.position event.2.start event.2.stop
  match event.1 with
  | .openTag tag => some (.ofTag tag position :: stack)
  | .closeTag => close? stack
  | .taskMarker checked => some (markTask checked stack)
  | event => (event.part? position).bind fun part => onTop? (·.addPart part) stack

/-- Closes open containers until one is left, and that one too, unless there is none. -/
def finish? : List OpenElement → Option Node
  | [] => none
  | [root] => some root.close
  | top :: parent :: outer => finish? (parent.addPart top.part :: outer)
termination_by stack => stack.length

end OpenElement

namespace Builder

theorem Step.feed?_stack {builder next : Builder} {index : LineIndex} {event : Event} {range : ByteRange}
    (h : builder.Step (index.position range.start range.stop) event next) :
    OpenElement.feed? index builder.stack (event, range) = some next.stack := by
  cases h with
  -- Each step of a builder is a step of its stack; that the stack is not empty shows where the step closes.
  | opened tag => rfl
  | kept last => simp [OpenElement.feed?, OpenElement.close?, stack, last]
  | closed parent outer around =>
    simp [OpenElement.feed?, OpenElement.close?, OpenElement.onTop?, stack, around]
  | marked checked =>
    rw [stack_mark]
    rfl
  | added event part given =>
    cases event <;> simp only [Event.part?, Option.some.injEq, reduceCtorEq] at given <;> subst given
    all_goals rfl

/-- A run on a stack that may run empty is the run of the builder. -/
theorem foldlM_feed?_stack (builder : Builder) (events : List (Event × ByteRange)) :
    events.foldlM (OpenElement.feed? builder.index) builder.stack = some (builder.feedAll events).stack := by
  induction events generalizing builder with
  | nil => rfl
  | cons event events ih =>
    have hrest := ih (builder.feed event.1 event.2)
    rw [index_feed] at hrest
    rw [List.foldlM_cons, (builder.step_feed event.1 event.2).feed?_stack]
    exact hrest

theorem finish?_cons (top : OpenElement) (outer : List OpenElement) :
    OpenElement.finish? (top :: outer) = some (closeAll top outer) := by
  induction outer generalizing top with
  | nil => rw [OpenElement.finish?, closeAll]
  | cons parent outer ih =>
    rw [OpenElement.finish?, ih]
    rfl

end Builder

/-- Events never find a stack without an open container, and leave one that can be closed into the tree. -/
theorem exists_stack_of_treeOfEvents (source : String) (events : List (Event × ByteRange)) :
    ∃ stack, events.foldlM (OpenElement.feed? (LineIndex.ofSource source))
        (Builder.start (LineIndex.ofSource source)).stack = some stack ∧
      stack ≠ [] ∧ OpenElement.finish? stack = some (treeOfEvents source events).value := by
  have hrun := (Builder.start (LineIndex.ofSource source)).foldlM_feed?_stack events
  refine ⟨_, hrun, List.cons_ne_nil _ _, ?_⟩
  rw [Builder.stack, Builder.finish?_cons]
  rfl

/-! ## The root -/

namespace OpenElement

/-- The container around everything. -/
structure IsRoot (index : LineIndex) (element : OpenElement) : Prop where
  kind : element.kind = "root"
  attributes : element.attributes = .empty
  literal : element.literal = .children
  position : element.position = some (index.position 0 index.size)

theorem IsRoot.addPart {index : LineIndex} {element : OpenElement} (h : element.IsRoot index) (part : Part) :
    (element.addPart part).IsRoot index := by
  rw [addPart_of_children h.literal]
  exact ⟨h.kind, h.attributes, h.literal, h.position⟩

theorem IsRoot.close {index : LineIndex} {element : OpenElement} (h : element.IsRoot index) :
    element.close =
      .element "root" none .empty element.reversed.reverse (some (index.position 0 index.size)) := by
  simp only [OpenElement.close, h.literal, h.kind, h.attributes, h.position]

/-- The outermost of some open containers is the root. -/
def Rooted (index : LineIndex) : List OpenElement → Prop
  | [] => False
  | top :: outer => outer = [] ∧ top.IsRoot index ∨ Rooted index outer

/-- The innermost container may change, as long as it stays the root if it was. -/
theorem Rooted.of_top {index : LineIndex} {top changed : OpenElement} {outer : List OpenElement}
    (h : Rooted index (top :: outer)) (htop : top.IsRoot index → changed.IsRoot index) :
    Rooted index (changed :: outer) := by
  rcases h with ⟨hnil, hroot⟩ | houter
  · exact .inl ⟨hnil, htop hroot⟩
  · exact .inr houter

theorem Rooted.markTask {index : LineIndex} {stack : List OpenElement} (h : Rooted index stack)
    (checked : Bool) : Rooted index (markTask checked stack) := by
  induction stack with
  | nil => exact h
  | cons top outer ih =>
    rw [Highlighter.markTask]
    split
    case isTrue hitem =>
      -- The root is no list item.
      refine h.of_top fun hroot => ?_
      simp [hroot.kind] at hitem
    case isFalse hitem =>
      rcases h with ⟨rfl, hroot⟩ | houter
      · exact .inl ⟨rfl, hroot⟩
      · exact .inr (ih houter)

end OpenElement

namespace Builder

theorem Step.rooted {index : LineIndex} {builder next : Builder} {position : Position} {event : Event}
    (hstep : builder.Step position event next) (h : OpenElement.Rooted index builder.stack) :
    OpenElement.Rooted index next.stack := by
  cases hstep with
  | opened tag => exact .inr h
  | kept last => exact h
  | closed parent outer around =>
    -- What is closed is not the last container, so the root is among the others.
    rcases h with ⟨hnil, -⟩ | houter
    · simp [around] at hnil
    · rw [around] at houter
      exact houter.of_top fun hroot => hroot.addPart builder.top.part
  | marked checked =>
    rw [stack_mark]
    exact h.markTask checked
  | added event part given => exact OpenElement.Rooted.of_top h fun hroot => hroot.addPart part

/-- The root is never closed by an event. -/
theorem rooted_feedAll {index : LineIndex} {builder : Builder} (h : OpenElement.Rooted index builder.stack)
    (events : List (Event × ByteRange)) : OpenElement.Rooted index (builder.feedAll events).stack := by
  induction events generalizing builder with
  | nil => exact h
  | cons event events ih => exact ih ((builder.step_feed event.1 event.2).rooted h)

theorem closeAll_of_rooted {index : LineIndex} {top : OpenElement} {outer : List OpenElement}
    (h : OpenElement.Rooted index (top :: outer)) :
    ∃ children, closeAll top outer =
      .element "root" none .empty children (some (index.position 0 index.size)) := by
  induction outer generalizing top with
  | nil =>
    -- Only the root is open, so its shape is all that is left of the invariant.
    rcases h with ⟨-, hroot⟩ | hnone
    · exact ⟨_, hroot.close⟩
    · exact hnone.elim
  | cons parent outer ih =>
    rcases h with ⟨hnil, -⟩ | houter
    · simp at hnil
    · -- The container becomes a part of the one around it, which keeps the root at the bottom.
      exact ih (houter.of_top fun hroot => hroot.addPart top.part)

end Builder

/-! ## Texts and positions -/

namespace OpenElement

/-- A container is in shape if it is positioned, and its children so far have no neighbouring texts and are placed. -/
structure InShape (element : OpenElement) : Prop where
  position : element.position.isSome = true
  apart : Node.ForestApart element.reversed.reverse
  placed : Node.Placed element.reversed.reverse

end OpenElement

/-- A node that is added has no neighbouring texts below it, and is placed. -/
def Part.InShape : Part → Prop
  | .fragment _ _ => True
  | .node child _ => Node.ForestApart [child] ∧ Node.Placed [child]

theorem Part.inShape_onto {part : Part} (h : part.InShape) {children : List Node}
    (hapart : Node.ForestApart children.reverse) (hplaced : Node.Placed children.reverse) :
    Node.ForestApart (part.onto children).reverse ∧ Node.Placed (part.onto children).reverse := by
  cases part with
  | node child proper =>
    -- A node is placed and apart from its neighbours, since it is no text.
    obtain ⟨hchild, hposition⟩ := h
    rw [onto, List.reverse_cons, Node.forestApart_append, Node.placed_append]
    refine ⟨⟨hapart, hchild, ?_⟩, hplaced, hposition⟩
    simp [proper]
  | fragment value position =>
    rcases fragment_onto_cases value position children with
      ⟨before, own, earlier, rfl, honto⟩ | ⟨hhead, honto⟩
    · -- The longer text is apart from what was apart from the shorter one.
      rw [List.reverse_cons, Node.forestApart_append] at hapart
      rw [List.reverse_cons, Node.placed_append] at hplaced
      rw [honto, List.reverse_cons, Node.forestApart_append, Node.placed_append, Node.placed_text]
      refine ⟨⟨hapart.1, Node.forestApart_text .., ?_⟩, hplaced.1, rfl⟩
      simpa [Node.isText] using hapart.2.2
    · -- The fragment becomes a text of its own, so the child before it is no text.
      rw [honto, List.reverse_cons, Node.forestApart_append, Node.placed_append, Node.placed_text]
      refine ⟨⟨hapart, Node.forestApart_text .., ?_⟩, hplaced, rfl⟩
      intro last hlast next _
      rw [List.getLast?_reverse] at hlast
      simp [hhead last hlast]

theorem OpenElement.InShape.addPart {element : OpenElement} (h : element.InShape) {part : Part}
    (hpart : part.InShape) : (element.addPart part).InShape := by
  by_cases hliteral : element.literal = .children
  · obtain ⟨hapart, hplaced⟩ := Part.inShape_onto hpart h.apart h.placed
    rw [addPart_of_children hliteral]
    exact ⟨h.position, hapart, hplaced⟩
  · rw [addPart_of_literal hliteral]
    exact ⟨h.position, h.apart, h.placed⟩

theorem OpenElement.InShape.close {element : OpenElement} (h : element.InShape) :
    Node.ForestApart [element.close] ∧ Node.Placed [element.close] := by
  obtain ⟨value, attributes, hclose⟩ := element.close_eq
  rw [hclose, Node.forestApart_of_children? rfl, Node.placed_element]
  exact ⟨h.apart, h.position, h.placed⟩

theorem Event.inShape_of_part? {position : Position} {event : Event} {part : Part}
    (h : event.part? position = some part) : part.InShape := by
  have hleaf : ∀ kind value attributes, (Part.leaf kind value attributes position).InShape := by
    intro kind value attributes
    rw [Part.leaf, Part.InShape, Node.forestApart_of_children? rfl, Node.placed_element]
    simp [Node.ForestApart, Node.TextsApart, Node.Placed, Node.forestExposed]
  cases event <;> simp only [part?, Option.some.injEq, reduceCtorEq] at h <;> subst h
  case text value => trivial
  case softBreak => trivial
  all_goals exact hleaf ..

theorem inShape_invariant : Invariant (fun _ => True) OpenElement.InShape Part.InShape where
  opened _ _ _ := by
    refine ⟨rfl, ?_, ?_⟩ <;>
      simp [OpenElement.ofTag, Node.ForestApart, Node.TextsApart, Node.Placed, Node.forestExposed]
  checked _ _ h := ⟨h.position, h.apart, h.placed⟩
  added _ _ h hpart := h.addPart hpart
  closed _ h := h.close
  given _ _ _ h := Event.inShape_of_part? h

/-- The tree of events is a root over the whole source; its texts are apart, and its nodes are placed. -/
theorem inShape_treeOfEvents (source : String) (events : List (Event × ByteRange)) :
    (∃ children, (treeOfEvents source events).value =
        .element "root" none .empty children
          (some ((LineIndex.ofSource source).position 0 (byteLength source.toList)))) ∧
      Node.ForestApart [(treeOfEvents source events).value] ∧
      Node.Placed [(treeOfEvents source events).value] := by
  -- The root is in shape while it is empty, and each event keeps all open elements in shape; so does closing them.
  have hstart : ∀ element ∈ (Builder.start (LineIndex.ofSource source)).stack, element.InShape := by
    refine List.forall_mem_singleton.mpr ⟨rfl, ?_, ?_⟩ <;>
      simp [Builder.start, Node.ForestApart, Node.TextsApart, Node.Placed, Node.forestExposed]
  have hrooted : OpenElement.Rooted (LineIndex.ofSource source)
      (Builder.start (LineIndex.ofSource source)).stack := .inl ⟨rfl, rfl, rfl, rfl, rfl⟩
  have hstack : ∀ element ∈ ((Builder.start (LineIndex.ofSource source)).feedAll events).stack,
      element.InShape := inShape_invariant.feedAll hstart fun _ _ _ _ => trivial
  obtain ⟨root, hroot, hclose⟩ := inShape_invariant.closeAll hstack
  refine ⟨Builder.closeAll_of_rooted (Builder.rooted_feedAll hrooted events), ?_⟩
  rw [treeOfEvents, Builder.finish, hclose]
  exact hroot.close

end Highlighter
