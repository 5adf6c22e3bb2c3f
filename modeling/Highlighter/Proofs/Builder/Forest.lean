import Highlighter.Proofs.Builder.Steps

/-!
# Reading a forest of items

A document is a forest: an item is an event that stands alone, or a container around items. Its events are the flat
form of it. Main statement: the tree that the builder makes of the events of a forest is a recursion over the
forest, which knows no open containers.

The recursion reads the items of a container as parts. What the parts become depends on the container: children,
where each run of fragments is one text, or a value or an attribute that joins their texts. Task markers are not
parts. They go past the containers around them up to the nearest list item.
-/

namespace Highlighter

/-! ## Forests -/

/-- Whether an event stands alone: it neither opens nor closes a container. -/
def Event.standsAlone : Event → Bool
  | .openTag _ => false
  | .closeTag => false
  | _ => true

/-- What a task marker says. -/
def Event.mark? : Event → Option Bool
  | .taskMarker checked => some checked
  | _ => none

/-- An item of a document, with the range of its source. -/
inductive Item where
  | single (event : Event) (alone : event.standsAlone = true) (range : ByteRange)
  | container (tag : Tag) (items : List Item) (range : ByteRange)

namespace Item

mutual

/-- The events of an item in order. A container is opened before its content and closed behind it. -/
def events : Item → List (Event × ByteRange)
  | .single event _ range => [(event, range)]
  | .container tag items range => (.openTag tag, range) :: (forestEvents items ++ [(.closeTag, range)])

/-- The events of a forest in order. -/
def forestEvents : List Item → List (Event × ByteRange)
  | [] => []
  | item :: items => item.events ++ forestEvents items

end

theorem forall_mem_forestEvents_single {holds : Event × ByteRange → Prop} {event : Event}
    {alone : event.standsAlone = true} {range : ByteRange} {items : List Item} :
    (∀ other ∈ forestEvents (.single event alone range :: items), holds other) ↔
      holds (event, range) ∧ ∀ other ∈ forestEvents items, holds other := by
  simp [forestEvents, events]

theorem forall_mem_forestEvents_container {holds : Event × ByteRange → Prop} {tag : Tag} {inner : List Item}
    {range : ByteRange} {items : List Item} :
    (∀ other ∈ forestEvents (.container tag inner range :: items), holds other) ↔
      holds (.openTag tag, range) ∧ (∀ other ∈ forestEvents inner, holds other) ∧ holds (.closeTag, range) ∧
        ∀ other ∈ forestEvents items, holds other := by
  simp only [forestEvents, events, List.cons_append, List.append_assoc, List.nil_append, List.forall_mem_cons,
    List.forall_mem_append]

/-- The balanced sequences of events of a forest. A container may be closed with any range. -/
inductive Spelling : List Item → List (Event × ByteRange) → Prop where
  | nil : Spelling [] []
  | single {items : List Item} {others : List (Event × ByteRange)} (event : Event)
      (alone : event.standsAlone = true) (range : ByteRange) (behind : Spelling items others) :
      Spelling (.single event alone range :: items) ((event, range) :: others)
  | container {inner items : List Item} {content others : List (Event × ByteRange)} (tag : Tag)
      (range closing : ByteRange) (inside : Spelling inner content) (behind : Spelling items others) :
      Spelling (.container tag inner range :: items)
        ((.openTag tag, range) :: (content ++ (.closeTag, closing) :: others))

theorem Spelling.map_fst {items : List Item} {events : List (Event × ByteRange)} (h : Spelling items events) :
    events.map (·.1) = (forestEvents items).map (·.1) := by
  induction h with
  | nil => rfl
  | single event alone range behind ih => simp [forestEvents, Item.events, ih]
  | container tag range closing inside behind ihinside ihbehind =>
    simp [forestEvents, Item.events, ihinside, ihbehind]

mutual

/-- The task markers of an item that reach a list item around it. A list item keeps those inside it. -/
def marks : Item → List Bool
  | .single event _ _ => event.mark?.toList
  | .container tag items _ => if tag = .item then [] else forestMarks items

/-- The task markers of a forest that reach a list item around it. -/
def forestMarks : List Item → List Bool
  | [] => []
  | item :: items => item.marks ++ forestMarks items

end

/-- What passes from the items of a container and the items behind it to the items that start with the container, and
from items to the items with an event in front, holds of all forests. -/
theorem forestInduction {motive : List Item → Prop} (items : List Item) (nil : motive [])
    (single : ∀ event alone range items, motive items → motive (.single event alone range :: items))
    (container : ∀ tag inner range items, motive inner → motive items →
      motive (.container tag inner range :: items)) :
    motive items := by
  match items with
  | [] => exact nil
  | .single event alone range :: items =>
    exact single event alone range items (forestInduction items nil single container)
  | .container tag inner range :: items =>
    exact container tag inner range items (forestInduction inner nil single container)
      (forestInduction items nil single container)

/-- The events of a forest are one of its spellings. -/
theorem spelling_forestEvents (items : List Item) : Spelling items (forestEvents items) := by
  induction items using forestInduction with
  | nil => exact .nil
  | single event alone range items ih => exact .single event alone range ih
  | container tag inner range items ihinner ihitems =>
    rw [forestEvents, events, List.cons_append, List.append_assoc, List.singleton_append]
    exact .container tag range range ihinner ihitems

end Item

/-! ## Reading parts -/

namespace Part

/-- The fragments at the front of parts. -/
def frontRun : List Part → List (String × Position)
  | .fragment value position :: parts => (value, position) :: frontRun parts
  | _ => []

/-- The parts from the first node on. -/
def behindRun : List Part → List Part
  | .fragment _ _ :: parts => behindRun parts
  | parts => parts

theorem length_behindRun_le (parts : List Part) : (behindRun parts).length ≤ parts.length := by
  match parts with
  | [] => simp [behindRun]
  | .node _ _ :: parts => simp [behindRun]
  | .fragment _ _ :: parts =>
    have hle := length_behindRun_le parts
    simp only [behindRun, List.length_cons]
    omega

/-- The text that a run of fragments becomes: their values one after the other, from where the first starts to where
the last ends. -/
def runText (first : String × Position) (others : List (String × Position)) : Node :=
  let last := others.getLast?.getD first
  .text (String.join ((first :: others).map (·.1))) (some ⟨first.2.start, last.2.stop⟩)

/-- The children that parts become: each longest run of fragments is one text, and each node is itself. -/
def nodes : List Part → List Node
  | [] => []
  | .fragment value position :: parts =>
    runText (value, position) (frontRun parts) :: nodes (behindRun parts)
  | .node child _ :: parts => child :: nodes parts
termination_by parts => parts.length
decreasing_by
  · exact Nat.lt_succ_of_le (length_behindRun_le parts)
  · simp

end Part

/-- The attributes of a list item with task markers, of which the last one counts. -/
def Tag.itemAttributes (marks : List Bool) : Attributes :=
  match marks.getLast? with
  | none => .empty
  | some checked => Attributes.empty.insert "checked" (.flag checked)

/-- The element that a container with these task markers and parts is read as. -/
def Tag.read (tag : Tag) (position : Position) (marks : List Bool) (parts : List Part) : Node :=
  let text := String.join (parts.map Part.text)
  match tag with
  | .codeBlock _ =>
    let value := if text.toList.getLast? = some '\n' then String.ofList text.toList.dropLast else text
    .element "code" (some value) tag.attributes [] (some position)
  | .htmlBlock => .element "html" (some text) tag.attributes [] (some position)
  | .image .. => .element "image" none (tag.attributes.insert "alt" (.text text)) [] (some position)
  | .item => .element "listItem" none (Tag.itemAttributes marks) (Part.nodes parts) (some position)
  | tag => .element tag.kind none tag.attributes (Part.nodes parts) (some position)

theorem Tag.isText_read (tag : Tag) (position : Position) (marks : List Bool) (parts : List Part) :
    (tag.read position marks parts).isText = false := by
  cases tag <;> rfl

namespace Item

variable (index : LineIndex)

mutual

/-- The part that an item is read as. A task marker is none. -/
def part? : Item → Option Part
  | .single event _ range => event.part? (index.position range.start range.stop)
  | .container tag items range =>
    let position := index.position range.start range.stop
    some (.node (tag.read position (forestMarks items) (parts items)) (tag.isText_read ..))

/-- The parts that a forest is read as. -/
def parts : List Item → List Part
  | [] => []
  | item :: items => item.part?.toList ++ parts items

end

/-- The tree that a forest is read as. -/
def tree (items : List Item) : Node :=
  .element "root" none .empty (Part.nodes (parts index items)) (some (index.position 0 index.size))

end Item

/-! ## Parts and marks of one container -/

namespace OpenElement

/-- Adds parts one after the other. -/
def addParts (element : OpenElement) (parts : List Part) : OpenElement := parts.foldl addPart element

/-- Marks a task once for each marker. -/
def checkAll (element : OpenElement) (marks : List Bool) : OpenElement := marks.foldl check element

theorem addParts_of_literal {element : OpenElement} (h : element.literal ≠ .children)
    (parts : List Part) :
    element.addParts parts =
      { element with buffer := element.buffer ++ String.join (parts.map Part.text) } := by
  induction parts generalizing element with
  | nil => simp [addParts]
  | cons part parts ih =>
    have hstep := addPart_of_literal h part
    have hliteral : (element.addPart part).literal ≠ .children := by rwa [literal_addPart]
    rw [addParts, List.foldl_cons, ← addParts, ih hliteral, hstep, List.map_cons, String.join_cons,
      String.append_assoc]

theorem addParts_of_children {element : OpenElement} (h : element.literal = .children)
    (parts : List Part) :
    element.addParts parts =
      { element with reversed := parts.foldl (fun children part => part.onto children) element.reversed } := by
  induction parts generalizing element with
  | nil => rfl
  | cons part parts ih =>
    have hstep := addPart_of_children h part
    have hliteral : (element.addPart part).literal = .children := by rwa [literal_addPart]
    rw [addParts, List.foldl_cons, ← addParts, ih hliteral, hstep, List.foldl_cons]

theorem checkAll_eq (element : OpenElement) (marks : List Bool) :
    element.checkAll marks =
      { element with
        attributes := match marks.getLast? with
          | none => element.attributes
          | some checked => element.attributes.insert "checked" (.flag checked) } := by
  induction marks generalizing element with
  | nil => rfl
  | cons checked marks ih =>
    -- The marks behind the first one overwrite it, and without any it is the last.
    rw [checkAll, List.foldl_cons, ← checkAll, ih, List.getLast?_cons]
    cases marks.getLast? with
    | none => rfl
    | some last => simp [check, Attributes.insert_insert]

end OpenElement

namespace Part

/-- Fragments that follow a text make it longer, up to where the last of them ends. -/
theorem foldl_onto_text (value : String) (position : Position) (children : List Node)
    (parts : List Part) :
    parts.foldl (fun children part => part.onto children) (.text value (some position) :: children) =
      (behindRun parts).foldl (fun children part => part.onto children)
        (runText (value, position) (frontRun parts) :: children) := by
  -- The text grows by one fragment at a time, so it is any text on which the others go on.
  induction parts generalizing value position with
  | nil => simp [frontRun, behindRun, runText]
  | cons part parts ih =>
    cases part with
    | node child proper => simp [frontRun, behindRun, runText]
    | fragment more next =>
      have hrun : runText (value ++ more, position.extendTo next) (frontRun parts) =
          runText (value, position) (frontRun (.fragment more next :: parts)) := by
        simp only [runText, frontRun, List.map_cons, String.join_cons, String.append_assoc,
          List.getLast?_cons, Option.getD_some, Position.extendTo_start]
        cases (frontRun parts).getLast? <;> rfl
      rw [List.foldl_cons, behindRun, ← hrun, ← ih]
      rfl

theorem frontRun_behindRun (parts : List Part) : frontRun (behindRun parts) = [] := by
  induction parts with
  | nil => rfl
  | cons part parts ih =>
    cases part with
    | fragment value position => exact ih
    | node child proper => rfl

/-- Parts become children behind the ones there are, unless a fragment at their front meets a text. -/
theorem foldl_onto {children : List Node} (parts : List Part)
    (h : frontRun parts = [] ∨ ∀ child ∈ children.head?, child.isText = false) :
    parts.foldl (fun children part => part.onto children) children = (nodes parts).reverse ++ children := by
  induction parts using nodes.induct generalizing children with
  | case1 => simp [nodes]
  | case2 value position parts ih =>
    -- The whole run is one text, and what is behind it starts with a node.
    have hhead : ∀ child ∈ children.head?, child.isText = false := by
      rcases h with hrun | hhead
      · simp [frontRun] at hrun
      · exact hhead
    rw [nodes, List.foldl_cons, fragment_onto hhead, foldl_onto_text, ih (.inl (frontRun_behindRun parts)),
      List.reverse_cons, List.append_assoc]
    rfl
  | case3 child proper parts ih =>
    have hhead : ∀ first ∈ (child :: children).head?, first.isText = false := by simpa using proper
    rw [nodes, List.foldl_cons, List.reverse_cons, List.append_assoc]
    exact ih (.inr hhead)

end Part

theorem dropFinalNewline_eq (text : String) :
    dropFinalNewline text =
      if text.toList.getLast? = some '\n' then String.ofList text.toList.dropLast else text := by
  unfold dropFinalNewline
  split
  · next rest hreversed =>
    -- The text is matched from its end, so a newline in front of the reversed text is the last character.
    have htext : text.toList = rest.reverse ++ ['\n'] := by
      rw [← List.reverse_reverse text.toList, hreversed, List.reverse_cons]
    simp [htext]
  · next hother =>
    -- No other form of the reversed text begins with a newline.
    split
    · next hlast =>
      obtain ⟨front, htext⟩ := List.getLast?_eq_some_iff.mp hlast
      exact absurd (by simp [htext]) (hother front.reverse)
    · rfl

namespace OpenElement

/-- A container with nothing in it yet. -/
structure Fresh (element : OpenElement) : Prop where
  reversed : element.reversed = []
  buffer : element.buffer = ""

theorem fresh_ofTag (tag : Tag) (position : Position) : (ofTag tag position).Fresh := ⟨rfl, rfl⟩

theorem Fresh.checkAll {element : OpenElement} (h : element.Fresh) (marks : List Bool) :
    (element.checkAll marks).Fresh := by
  rw [checkAll_eq]
  exact ⟨h.reversed, h.buffer⟩

theorem close_addParts_of_children {element : OpenElement} (h : element.literal = .children)
    (hfresh : element.Fresh) (parts : List Part) :
    (element.addParts parts).close =
      .element element.kind none element.attributes (Part.nodes parts) element.position := by
  have hhead : ∀ child ∈ ([] : List Node).head?, child.isText = false := by simp
  rw [addParts_of_children h, hfresh.reversed, Part.foldl_onto parts (.inr hhead)]
  simp [close, h]

theorem close_addParts_of_value {element : OpenElement} (h : element.literal = .value)
    (hfresh : element.Fresh) (parts : List Part) :
    (element.addParts parts).close =
      let text := String.join (parts.map Part.text)
      .element element.kind (some (if element.kind = "code" then dropFinalNewline text else text))
        element.attributes [] element.position := by
  have hne : element.literal ≠ .children := by simp [h]
  rw [addParts_of_literal hne, hfresh.buffer]
  simp [close, h, hfresh.reversed]

theorem close_addParts_of_alt {element : OpenElement} (h : element.literal = .alt)
    (hfresh : element.Fresh) (parts : List Part) :
    (element.addParts parts).close =
      .element element.kind none
        (element.attributes.insert "alt" (.text (String.join (parts.map Part.text)))) [] element.position := by
  have hne : element.literal ≠ .children := by simp [h]
  rw [addParts_of_literal hne, hfresh.buffer]
  simp [close, h, hfresh.reversed]

theorem close_addParts_item (position : Position) (marks : List Bool) (parts : List Part) :
    (((ofTag .item position).checkAll marks).addParts parts).close =
      Tag.item.read position marks parts := by
  have hfresh := (fresh_ofTag .item position).checkAll marks
  have hliteral : ((ofTag .item position).checkAll marks).literal = .children := by
    rw [checkAll_eq]
    rfl
  rw [close_addParts_of_children hliteral hfresh, checkAll_eq, Tag.read, Tag.itemAttributes]
  rfl

/-- A container that is closed behind its parts is the element that it is read as. Only a list item has marks. -/
theorem close_addParts_ofTag {tag : Tag} (h : tag ≠ .item) (position : Position) (marks : List Bool)
    (parts : List Part) :
    ((ofTag tag position).addParts parts).close = tag.read position marks parts := by
  have hfresh := fresh_ofTag tag position
  cases tag
  case item => contradiction
  -- The text of a code block loses its last newline, and that of raw HTML does not.
  case codeBlock info =>
    rw [close_addParts_of_value rfl hfresh, Tag.read, ← dropFinalNewline_eq]
    rfl
  case htmlBlock => exact close_addParts_of_value rfl hfresh parts
  case image url title => exact close_addParts_of_alt rfl hfresh parts
  all_goals exact close_addParts_of_children rfl hfresh parts

end OpenElement

/-! ## The builder on a forest -/

namespace Builder

/-- Adds parts one after the other. -/
def addParts (builder : Builder) (parts : List Part) : Builder := parts.foldl addPart builder

/-- Puts a container on top of the open ones. -/
def push (builder : Builder) (element : OpenElement) : Builder :=
  { builder with top := element, outer := builder.stack }

/-- Marks the innermost list item once for each marker. -/
def markAll (builder : Builder) (marks : List Bool) : Builder := marks.foldl mark builder

theorem addParts_eq (builder : Builder) (parts : List Part) :
    builder.addParts parts = { builder with top := builder.top.addParts parts } := by
  induction parts generalizing builder with
  | nil => rfl
  | cons part parts ih => exact ih (builder.addPart part)

/-- What one mark leaves as it is, all marks do. -/
theorem markAll_keeps {α : Type} (part : Builder → α) (h : ∀ builder checked, part (mark builder checked) = part builder)
    (builder : Builder) (marks : List Bool) : part (builder.markAll marks) = part builder := by
  induction marks generalizing builder with
  | nil => rfl
  | cons checked marks ih => rw [markAll, List.foldl_cons, ← markAll, ih, h]

@[simp] theorem index_markAll (builder : Builder) (marks : List Bool) :
    (builder.markAll marks).index = builder.index := by
  refine markAll_keeps (·.index) (fun builder checked => ?_) builder marks
  rw [mark]
  split <;> rfl

@[simp] theorem records_markAll (builder : Builder) (marks : List Bool) :
    (builder.markAll marks).records = builder.records := by
  refine markAll_keeps (·.records) (fun builder checked => ?_) builder marks
  rw [mark]
  split <;> rfl

theorem markAll_addParts (builder : Builder) (marks : List Bool) (parts : List Part) :
    (builder.addParts parts).markAll marks = (builder.markAll marks).addParts parts := by
  -- One mark goes past one part, then past all parts, and then all marks do.
  have hpart : ∀ (builder : Builder) part checked,
      (builder.addPart part).mark checked = (builder.mark checked).addPart part := by
    intro builder part checked
    simp only [mark, addPart, OpenElement.kind_addPart, OpenElement.check_addPart]
    split <;> rfl
  have hparts : ∀ (builder : Builder) checked,
      (builder.addParts parts).mark checked = (builder.mark checked).addParts parts := by
    intro builder checked
    induction parts generalizing builder with
    | nil => rfl
    | cons part parts ih =>
      have hrest := ih (builder.addPart part)
      rw [hpart] at hrest
      exact hrest
  induction marks generalizing builder with
  | nil => rfl
  | cons checked marks ih =>
    have hrest := ih (builder.mark checked)
    rw [← hparts] at hrest
    exact hrest

theorem markAll_addParts_append (builder : Builder) (marks more : List Bool) (parts others : List Part) :
    (((builder.markAll marks).addParts parts).markAll more).addParts others =
      (builder.markAll (marks ++ more)).addParts (parts ++ others) := by
  rw [markAll_addParts]
  simp only [markAll, addParts, List.foldl_append]

/-- A list item that was just opened takes all marks. -/
theorem markAll_openTag_item (builder : Builder) (position : Position) (marks : List Bool) :
    (builder.openTag .item position).markAll marks =
      builder.push ((OpenElement.ofTag .item position).checkAll marks) := by
  have hpush : ∀ element : OpenElement, element.kind = "listItem" →
      (builder.push element).markAll marks = builder.push (element.checkAll marks) := by
    induction marks with
    | nil => intro element _; rfl
    | cons checked marks ih =>
      intro element hkind
      have hstep : (builder.push element).mark checked = builder.push (element.check checked) := if_pos hkind
      rw [markAll, List.foldl_cons, ← markAll, hstep]
      exact ih (element.check checked) hkind
  exact hpush _ rfl

/-- Past any other container the marks go on to those around it. -/
theorem markAll_openTag {tag : Tag} (h : tag ≠ .item) (builder : Builder) (position : Position)
    (marks : List Bool) :
    (builder.openTag tag position).markAll marks = (builder.markAll marks).openTag tag position := by
  have hkind : (OpenElement.ofTag tag position).kind ≠ "listItem" := by
    cases tag <;> simp_all [OpenElement.ofTag, Tag.kind]
  induction marks generalizing builder with
  | nil => rfl
  | cons checked marks ih =>
    -- A mark looks for the innermost item, and passes over this container since it is none.
    have hstep : (builder.openTag tag position).mark checked =
        (builder.mark checked).openTag tag position := by
      simp only [openTag, mark, if_neg hkind, markTask]
      split <;> rfl
    rw [markAll, List.foldl_cons, ← markAll, hstep, ih]
    rfl

theorem addParts_push (builder : Builder) (element : OpenElement) (parts : List Part) :
    (builder.push element).addParts parts = builder.push (element.addParts parts) := by
  rw [addParts_eq]
  rfl

/-- The end of a container adds it, as a part, to what was there when it was opened. -/
theorem closeTag_push (builder : Builder) (element : OpenElement) :
    (builder.push element).closeTag = builder.addPart element.part := rfl

/-- An event that stands alone adds its mark or its part, if it has one. -/
theorem Step.eq_of_standsAlone {builder next : Builder} {position : Position} {event : Event}
    (h : builder.Step position event next) (alone : event.standsAlone = true) :
    next = (builder.markAll event.mark?.toList).addParts (event.part? position).toList := by
  cases h with
  | opened tag => simp [Event.standsAlone] at alone
  | kept last => simp [Event.standsAlone] at alone
  | closed parent outer around => simp [Event.standsAlone] at alone
  | marked checked => rfl
  | added event part given =>
    -- What adds a part is no mark.
    have hmark : event.mark? = none := by
      cases event <;> simp_all [Event.part?, Event.mark?]
    rw [given, hmark]
    rfl

/-- The events of a forest mark its list item, and add its parts. -/
theorem feedAll_forestEvents (builder : Builder) (items : List Item) :
    builder.feedAll (Item.forestEvents items) =
      (builder.markAll (Item.forestMarks items)).addParts (Item.parts builder.index items) := by
  -- For any builder, because the items of a container meet one with that container on top.
  induction items using Item.forestInduction generalizing builder with
  | nil => rfl
  | single event alone range items ih =>
    have hstep := (builder.step_feed event range).eq_of_standsAlone alone
    rw [Item.forestEvents, Item.events, List.cons_append, feedAll_cons, List.nil_append, ih, index_feed,
      hstep, markAll_addParts_append]
    rfl
  | container tag inner range items ihinner ihitems =>
    -- Behind its end, the container has marked the items around it, and is a part of what it stands in.
    have hclosed : ((builder.openTag tag (builder.index.position range.start range.stop)).feedAll
          (Item.forestEvents inner)).closeTag =
        (builder.markAll (Item.container tag inner range).marks).addParts
          ((Item.container tag inner range).part? builder.index).toList := by
      rw [ihinner, Item.marks, Item.part?]
      by_cases htag : tag = .item
      · subst htag
        rw [markAll_openTag_item, addParts_push, closeTag_push, if_pos rfl,
          OpenElement.part_eq (OpenElement.close_addParts_item ..) (Tag.isText_read ..)]
        rfl
      · -- The marks are not for this container: they are made around it, before it is opened.
        have hopen : ∀ position, (builder.markAll (Item.forestMarks inner)).openTag tag position =
            (builder.markAll (Item.forestMarks inner)).push (.ofTag tag position) := fun _ => rfl
        rw [markAll_openTag htag, hopen, addParts_push, closeTag_push, if_neg htag,
          OpenElement.part_eq (OpenElement.close_addParts_ofTag htag ..) (Tag.isText_read ..)]
        rfl
    have hindex : ((builder.markAll (Item.container tag inner range).marks).addParts
        ((Item.container tag inner range).part? builder.index).toList).index = builder.index := by
      rw [addParts_eq, index_markAll]
    have hfeed : builder.feedAll (Item.container tag inner range).events =
        ((builder.openTag tag (builder.index.position range.start range.stop)).feedAll
          (Item.forestEvents inner)).closeTag := by
      rw [Item.events, feedAll_cons, feedAll_append]
      rfl
    rw [Item.forestEvents, feedAll_append, hfeed, hclosed, ihitems, hindex, markAll_addParts_append]
    rfl

/-- The builder does not look at the range with which a container is closed. -/
theorem feedAll_spelling (builder : Builder) {items : List Item} {events : List (Event × ByteRange)}
    (h : Item.Spelling items events) : builder.feedAll events = builder.feedAll (Item.forestEvents items) := by
  induction h generalizing builder with
  | nil => rfl
  | single event alone range behind ih => exact ih (builder.feed event range)
  | container tag range closing inside behind ihinside ihbehind =>
    simp only [Item.forestEvents, Item.events, List.cons_append, List.append_assoc, List.nil_append,
      feedAll_cons, feedAll_append, ihinside, ihbehind]
    rfl

end Builder

/-- **The tree of a forest's events is the reading of the forest.** -/
theorem treeOfEvents_forestEvents (source : String) (items : List Item) :
    treeOfEvents source (Item.forestEvents items) =
      .silent (Item.tree (LineIndex.ofSource source) items) := by
  -- The root is no list item, so marks that reach it are lost.
  have hmarks : ∀ index marks, (Builder.start index).markAll marks = Builder.start index := by
    intro index marks
    induction marks with
    | nil => rfl
    | cons checked marks ih => exact ih
  have hroot : (Builder.start (LineIndex.ofSource source)).top.Fresh := ⟨rfl, rfl⟩
  have hclose := OpenElement.close_addParts_of_children rfl hroot
    (Item.parts (LineIndex.ofSource source) items)
  rw [treeOfEvents, Builder.feedAll_forestEvents, hmarks, Builder.addParts_eq]
  exact congrArg Logged.silent hclose

/-- A task marker goes past its paragraph to the list item, and does not cut the text around it. -/
example :
    let index := LineIndex.ofSource "a[x]b"
    let words : List Item :=
      [.single (.text "a") rfl ⟨0, 1⟩, .single (.taskMarker true) rfl ⟨1, 4⟩, .single (.text "b") rfl ⟨4, 5⟩]
    Item.tree index [.container .item [.container .paragraph words ⟨0, 5⟩] ⟨0, 5⟩] =
      let whole := some (index.position 0 5)
      .element "root" none .empty
        [.element "listItem" none (Attributes.empty.insert "checked" (.flag true))
          [.element "paragraph" none .empty [.text "ab" whole] whole] whole] whole := by
  cbv

end Highlighter
