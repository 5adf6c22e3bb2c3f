import Highlighter.Document.Builder

/-!
# Steps of the builder

What one event does to the open containers. An event opens a container, closes one, marks a task, or adds a part
to the innermost container: a fragment of text, or a node that is no text. A container that is closed is a part of
the one around it, and the last one stays open. Nothing else happens, so what these steps keep, a whole run keeps.

A part goes one of two ways. It becomes a child, where a fragment is joined to a text before it; or, in a literal
container, its text goes to the buffer.
-/

namespace Highlighter

/-! ## Parts -/

/-- What can be added to an open container. -/
inductive Part where
  /-- A fragment of text. -/
  | fragment (value : String) (position : Position)
  /-- A node that is no text. -/
  | node (child : Node) (proper : child.isText = false)

theorem Node.isText_element (kind : String) (value : Option String) (attributes : Attributes)
    (children : List Node) (position : Option Position) :
    (Node.element kind value attributes children position).isText = false := rfl

namespace Part

/-- The text that a part stands for. -/
def text : Part → String
  | .fragment value _ => value
  | .node child _ => child.textContent

/-- An element without children. -/
def leaf (kind : String) (value : Option String) (attributes : Attributes) (position : Position) : Part :=
  .node (.element kind value attributes [] (some position)) (Node.isText_element ..)

@[simp] theorem text_fragment (value : String) (position : Position) :
    (fragment value position).text = value := rfl

@[simp] theorem text_node (child : Node) (proper : child.isText = false) :
    (node child proper).text = child.textContent := rfl

@[simp] theorem text_leaf (kind : String) (value : Option String) (attributes : Attributes)
    (position : Position) : (leaf kind value attributes position).text = value.getD "" := by
  rw [leaf, text_node, Node.textContent]

/-- The children so far, the last one first, with one more part. -/
def onto : Part → List Node → List Node
  | .fragment value position, .text before own :: earlier =>
    .text (before ++ value) (some ((own.map (·.extendTo position)).getD position)) :: earlier
  | .fragment value position, children => .text value (some position) :: children
  | .node child _, children => child :: children

/-- A fragment makes the text before it longer, or starts a text of its own. -/
theorem fragment_onto_cases (value : String) (position : Position) (children : List Node) :
    (∃ before own earlier, children = .text before own :: earlier ∧
        (fragment value position).onto children =
          .text (before ++ value) (some ((own.map (·.extendTo position)).getD position)) :: earlier) ∨
      (∀ child ∈ children.head?, child.isText = false) ∧
        (fragment value position).onto children = .text value (some position) :: children := by
  match children with
  | [] => exact .inr ⟨by simp, rfl⟩
  | .text before own :: earlier => exact .inl ⟨before, own, earlier, rfl, rfl⟩
  | .highlight .. :: _ => exact .inr ⟨by simp [Node.isText], rfl⟩
  | .element .. :: _ => exact .inr ⟨by simp [Node.isText], rfl⟩

theorem fragment_onto {value : String} {position : Position} {children : List Node}
    (h : ∀ child ∈ children.head?, child.isText = false) :
    (fragment value position).onto children = .text value (some position) :: children := by
  rcases fragment_onto_cases value position children with ⟨before, own, earlier, rfl, -⟩ | ⟨-, honto⟩
  · simp [Node.isText] at h
  · exact honto

end Part

/-- The part that an event adds, if it adds one. -/
def Event.part? (position : Position) : Event → Option Part
  | .text value => some (.fragment value position)
  | .softBreak => some (.fragment "\n" position)
  | .code value => some (.leaf "inlineCode" (some value) .empty position)
  | .inlineMath value => some (.leaf "inlineMath" (some value) .empty position)
  | .displayMath value => some (.leaf "math" (some value) .empty position)
  | .html value => some (.leaf "html" (some value) .empty position)
  | .inlineHtml value => some (.leaf "html" (some value) .empty position)
  | .footnoteReference label =>
    some (.leaf "footnoteReference" none (Attributes.empty.insert "identifier" (.text label)) position)
  | .hardBreak => some (.leaf "break" none .empty position)
  | .rule => some (.leaf "thematicBreak" none .empty position)
  | .openTag _ => none
  | .closeTag => none
  | .taskMarker _ => none

/-! ## One open container -/

namespace OpenElement

/-- Adds a part. -/
def addPart (element : OpenElement) : Part → OpenElement
  | .fragment value position => element.addText value position
  | .node child _ => element.addNode child child.textContent

/-- Marks a task as done or not. -/
def check (element : OpenElement) (checked : Bool) : OpenElement :=
  { element with attributes := element.attributes.insert "checked" (.flag checked) }

theorem addPart_of_children {element : OpenElement} (h : element.literal = .children) (part : Part) :
    element.addPart part = { element with reversed := part.onto element.reversed } := by
  cases part with
  | fragment value position =>
    simp only [addPart, addText, h]
    split
    · next before own earlier hreversed =>
      rw [hreversed]
      cases own <;> rfl
    · next hreversed =>
      -- The last child is no text.
      rw [Part.fragment_onto]
      intro child hchild
      obtain ⟨earlier, hcons⟩ := List.head?_eq_some_iff.mp hchild
      cases child with
      | text before own => exact absurd hcons (hreversed before own earlier)
      | highlight value children own => rfl
      | element kind value attributes children own => rfl
  | node child proper =>
    simp only [addPart, addNode, h]
    rfl

theorem addPart_of_literal {element : OpenElement} (h : element.literal ≠ .children) (part : Part) :
    element.addPart part = { element with buffer := element.buffer ++ part.text } := by
  cases part with
  | fragment value position =>
    simp only [addPart, addText, Part.text_fragment]
  | node child proper =>
    simp only [addPart, addNode, Part.text_node]

@[simp] theorem kind_addPart (element : OpenElement) (part : Part) :
    (element.addPart part).kind = element.kind := by
  by_cases h : element.literal = .children
  · rw [addPart_of_children h]
  · rw [addPart_of_literal h]

@[simp] theorem literal_addPart (element : OpenElement) (part : Part) :
    (element.addPart part).literal = element.literal := by
  by_cases h : element.literal = .children
  · rw [addPart_of_children h]
  · rw [addPart_of_literal h]

/-- A mark and a part do not meet. -/
theorem check_addPart (element : OpenElement) (checked : Bool) (part : Part) :
    (element.addPart part).check checked = (element.check checked).addPart part := by
  by_cases h : element.literal = .children
  · rw [addPart_of_children h, addPart_of_children (by exact h)]
    rfl
  · rw [addPart_of_literal h, addPart_of_literal (by exact h)]
    rfl

/-- A closed container is an element with the kind, the children and the position that it had. -/
theorem close_eq (element : OpenElement) :
    ∃ value attributes, element.close =
      .element element.kind value attributes element.reversed.reverse element.position := by
  unfold close
  cases element.literal <;> exact ⟨_, _, rfl⟩

theorem isText_close (element : OpenElement) : element.close.isText = false := by
  obtain ⟨value, attributes, hclose⟩ := element.close_eq
  rw [hclose, Node.isText_element]

/-- A closed container, as a part of the one around it. -/
def part (element : OpenElement) : Part := .node element.close element.isText_close

theorem part_eq {element : OpenElement} {child : Node} (h : element.close = child)
    (proper : child.isText = false) : element.part = .node child proper := by
  subst h
  rfl

end OpenElement

/-! ## One event -/

namespace Builder

/-- The open containers, the innermost first. -/
def stack (builder : Builder) : List OpenElement := builder.top :: builder.outer

/-- Adds a part to the innermost container. -/
def addPart (builder : Builder) (part : Part) : Builder := { builder with top := builder.top.addPart part }

/-- Marks the innermost list item. -/
def mark (builder : Builder) (checked : Bool) : Builder :=
  if builder.top.kind = "listItem" then { builder with top := builder.top.check checked }
  else { builder with outer := markTask checked builder.outer }

theorem stack_mark (builder : Builder) (checked : Bool) :
    (builder.mark checked).stack = markTask checked builder.stack := by
  simp only [mark, stack, markTask]
  by_cases h : builder.top.kind = "listItem"
  · rw [if_pos h, if_pos h]
    rfl
  · rw [if_neg h, if_neg h]

theorem feed_of_part? {builder : Builder} {event : Event} {range : ByteRange} {part : Part}
    (h : event.part? (builder.index.position range.start range.stop) = some part) :
    builder.feed event range = builder.addPart part := by
  -- An element without children has its value for a text, so in a literal container it does what raw HTML does.
  have hliteral : ∀ value position, builder.top.literal = .value →
      { builder with top := { builder.top with buffer := builder.top.buffer ++ value } } =
        builder.addPart (.leaf "html" (some value) .empty position) := by
    intro value position hvalue
    have hne : builder.top.literal ≠ .children := by simp [hvalue]
    simp [addPart, OpenElement.addPart_of_literal hne]
  have hleaf : ∀ kind value attributes position,
      { builder with top := builder.top.addLeaf kind value attributes position } =
        builder.addPart (.leaf kind value attributes position) := by
    intro kind value attributes position
    simp only [addPart, OpenElement.addPart, Part.leaf, OpenElement.addLeaf, Node.textContent]
  -- Text goes to the front of what is open, and everything else is a leaf.
  cases event <;> simp only [Event.part?, Option.some.injEq, reduceCtorEq] at h <;> subst h
  case html value =>
    simp only [feed]
    split
    case h_1 hvalue => exact hliteral value _ hvalue
    case h_2 => exact hleaf ..
  case inlineHtml value =>
    simp only [feed]
    split
    case h_1 hvalue => exact hliteral value _ hvalue
    case h_2 => exact hleaf ..
  case text value => rfl
  case softBreak => rfl
  all_goals exact hleaf ..

theorem feed_taskMarker (builder : Builder) (checked : Bool) (range : ByteRange) :
    builder.feed (.taskMarker checked) range = builder.mark checked := by
  simp only [feed, markTask, mark]
  by_cases h : builder.top.kind = "listItem"
  · rw [if_pos h, if_pos h]
    rfl
  · rw [if_neg h, if_neg h]

/-- What one event at a position of the source can do. -/
inductive Step (builder : Builder) (position : Position) : Event → Builder → Prop where
  | opened (tag : Tag) : Step builder position (.openTag tag) (builder.openTag tag position)
  /-- The last container stays open. -/
  | kept (last : builder.outer = []) :
    Step builder position .closeTag { builder with records := .unbalancedEnd :: builder.records }
  /-- A container that is closed is added to the one around it. -/
  | closed (parent : OpenElement) (outer : List OpenElement) (around : builder.outer = parent :: outer) :
    Step builder position .closeTag { builder with top := parent.addPart builder.top.part, outer := outer }
  | marked (checked : Bool) : Step builder position (.taskMarker checked) (builder.mark checked)
  | added (event : Event) (part : Part) (given : event.part? position = some part) :
    Step builder position event (builder.addPart part)

theorem step_closeTag (builder : Builder) (position : Position) :
    builder.Step position .closeTag builder.closeTag := by
  rw [closeTag]
  split
  · next last => exact .kept last
  · next parent outer around => exact .closed parent outer around

/-- Every event makes one of the steps. -/
theorem step_feed (builder : Builder) (event : Event) (range : ByteRange) :
    builder.Step (builder.index.position range.start range.stop) event (builder.feed event range) := by
  cases hpart : event.part? (builder.index.position range.start range.stop) with
  | some part =>
    rw [feed_of_part? hpart]
    exact .added event part hpart
  | none =>
    -- What has no part is a tag or a task marker.
    cases event <;> simp only [Event.part?, reduceCtorEq] at hpart
    case openTag tag => exact .opened tag
    case closeTag => exact builder.step_closeTag _
    case taskMarker checked =>
      rw [feed_taskMarker]
      exact .marked checked

theorem Step.index_eq {builder next : Builder} {position : Position} {event : Event}
    (h : builder.Step position event next) : next.index = builder.index := by
  cases h with
  | opened tag => rfl
  | kept last => rfl
  | closed parent outer around => rfl
  | marked checked =>
    rw [mark]
    split <;> rfl
  | added event part given => rfl

@[simp] theorem index_feed (builder : Builder) (event : Event) (range : ByteRange) :
    (builder.feed event range).index = builder.index := (builder.step_feed event range).index_eq

/-! ## Many events -/

@[simp] theorem feedAll_nil (builder : Builder) : builder.feedAll [] = builder := rfl

@[simp] theorem feedAll_cons (builder : Builder) (event : Event × ByteRange)
    (events : List (Event × ByteRange)) :
    builder.feedAll (event :: events) = (builder.feed event.1 event.2).feedAll events := rfl

theorem feedAll_append (builder : Builder) (first second : List (Event × ByteRange)) :
    builder.feedAll (first ++ second) = (builder.feedAll first).feedAll second := by
  simp only [feedAll, List.foldl_append]

end Builder

/-! ## What every step keeps -/

/-- A condition on open containers that no step breaks, with the condition on parts that it needs. Only containers whose
tags meet a third condition are opened. -/
structure Invariant (tags : Tag → Prop) (holds : OpenElement → Prop) (fits : Part → Prop) : Prop where
  opened : ∀ tag position, tags tag → holds (.ofTag tag position)
  checked : ∀ element checked, holds element → holds (element.check checked)
  added : ∀ element part, holds element → fits part → holds (element.addPart part)
  closed : ∀ element, holds element → fits element.part
  given : ∀ event position part, Event.part? position event = some part → fits part

namespace Invariant

variable {tags : Tag → Prop} {holds : OpenElement → Prop} {fits : Part → Prop}

theorem markTask (law : Invariant tags holds fits) {stack : List OpenElement}
    (h : ∀ element ∈ stack, holds element) (checked : Bool) :
    ∀ element ∈ Highlighter.markTask checked stack, holds element := by
  induction stack with
  | nil => exact h
  | cons top outer ih =>
    obtain ⟨htop, houter⟩ := List.forall_mem_cons.mp h
    rw [Highlighter.markTask]
    split
    · exact List.forall_mem_cons.mpr ⟨law.checked top checked htop, houter⟩
    · exact List.forall_mem_cons.mpr ⟨htop, ih houter⟩

theorem step (law : Invariant tags holds fits) {builder next : Builder} {position : Position}
    {event : Event} (hstep : builder.Step position event next)
    (h : ∀ element ∈ builder.stack, holds element) (htag : ∀ tag, event = .openTag tag → tags tag) :
    ∀ element ∈ next.stack, holds element := by
  obtain ⟨htop, houter⟩ := List.forall_mem_cons.mp h
  cases hstep with
  | opened tag => exact List.forall_mem_cons.mpr ⟨law.opened tag position (htag tag rfl), h⟩
  | kept last => exact h
  | closed parent outer around =>
    -- The container is not open any more, so its condition goes on in the part that it is.
    rw [around] at houter
    obtain ⟨hparent, hothers⟩ := List.forall_mem_cons.mp houter
    have hadded := law.added parent builder.top.part hparent (law.closed builder.top htop)
    exact List.forall_mem_cons.mpr ⟨hadded, hothers⟩
  | marked checked =>
    rw [Builder.stack_mark]
    exact law.markTask h checked
  | added event part given =>
    have hadded := law.added builder.top part htop (law.given event position part given)
    exact List.forall_mem_cons.mpr ⟨hadded, houter⟩

/-- A run keeps the condition of all open containers. -/
theorem feedAll (law : Invariant tags holds fits) {builder : Builder}
    (h : ∀ element ∈ builder.stack, holds element) {events : List (Event × ByteRange)}
    (htags : ∀ event ∈ events, ∀ tag, event.1 = .openTag tag → tags tag) :
    ∀ element ∈ (builder.feedAll events).stack, holds element := by
  induction events generalizing builder with
  | nil => exact h
  | cons event events ih =>
    obtain ⟨hfirst, hothers⟩ := List.forall_mem_cons.mp htags
    rw [Builder.feedAll_cons]
    exact ih (law.step (builder.step_feed event.1 event.2) h hfirst) hothers

/-- What is left when all containers are closed is a container that met the condition. -/
theorem closeAll (law : Invariant tags holds fits) {top : OpenElement} {outer : List OpenElement}
    (h : ∀ element ∈ top :: outer, holds element) :
    ∃ root, holds root ∧ Builder.closeAll top outer = root.close := by
  induction outer generalizing top with
  | nil => exact ⟨top, h top (List.mem_cons_self ..), rfl⟩
  | cons parent outer ih =>
    obtain ⟨htop, houter⟩ := List.forall_mem_cons.mp h
    obtain ⟨hparent, hothers⟩ := List.forall_mem_cons.mp houter
    have hnext := law.added parent top.part hparent (law.closed top htop)
    exact ih (List.forall_mem_cons.mpr ⟨hnext, hothers⟩)

end Invariant

end Highlighter
