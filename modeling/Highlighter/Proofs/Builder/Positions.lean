import Highlighter.Proofs.Builder.Forest
import Highlighter.Proofs.Document.Descendants
import Highlighter.Proofs.Source.Points

/-!
# Positions of a built tree

A node has its position from the range of the event that it was made of, and a text that was put together from where the
first fragment starts to where the last one ends. Main statement: if the ranges of a forest lie one behind the other, and
those of a container's content within its own, then so do the positions in the tree. This holds for the offsets of the
points, and, if the ranges are cut between code points, for the points as they are ordered.

Everything in between is about any transitive relation of points. What is inside a container or behind an item is
bounded by two points, and nothing more has to be known about it.
-/

namespace Highlighter

/-! ## Siblings in order -/

/-- Four places in order: an interval, and the bounds around it. -/
structure InOrder {α : Type} (le : α → α → Prop) (lower start stop upper : α) : Prop where
  lower : le lower start
  ordered : le start stop
  upper : le stop upper

namespace Node

/-- How a node lies with its children: its position is in order and contains theirs, and each of theirs ends before those of
the siblings behind it start. -/
structure Layout (le : Point → Point → Prop) (node : Node) (position : Position) (inner : List Position) : Prop where
  own : node.position? = some position
  children : (node.children?.getD []).map position? = inner.map some
  ordered : le position.start position.stop
  inside : ∀ child ∈ inner, le position.start child.start ∧ le child.stop position.stop
  apart : inner.Pairwise fun before after => le before.stop after.start

/-- Whether a node and its children have positions that lie in order. -/
def LaidOut (le : Point → Point → Prop) (node : Node) : Prop :=
  ∃ position inner, node.Layout le position inner

/-- Siblings whose positions lie between two points, one behind the other, and so do those of all children. -/
inductive Fit (le : Point → Point → Prop) : Point → Point → List Node → Prop where
  | nil (lower upper : Point) : Fit le lower upper []
  | cons {lower upper : Point} {node : Node} {nodes : List Node} (position : Position)
      (located : node.position? = some position)
      (within : InOrder le lower position.start position.stop upper)
      (inside : ∀ children, node.children? = some children → Fit le position.start position.stop children)
      (behind : Fit le position.stop upper nodes) :
      Fit le lower upper (node :: nodes)

variable {le : Point → Point → Prop} {lower upper : Point} {nodes : List Node}

section Transitive

variable (htrans : ∀ ⦃a b c⦄, le a b → le b c → le a c)
include htrans

theorem Fit.of_le {point : Point} (hle : le lower point) (h : Fit le point upper nodes) : Fit le lower upper nodes := by
  cases h with
  | nil => exact .nil lower upper
  | cons position located within inside behind =>
    exact .cons position located ⟨htrans hle within.lower, within.ordered, within.upper⟩ inside behind

theorem Fit.exists_positions (h : Fit le lower upper nodes) :
    ∃ positions : List Position, nodes.map position? = positions.map some ∧
      (∀ own ∈ positions, le lower own.start ∧ le own.stop upper) ∧
      positions.Pairwise fun before after => le before.stop after.start := by
  induction h with
  | nil => exact ⟨[], rfl, by simp, .nil⟩
  | cons position located within _ behind _ ih =>
    obtain ⟨positions, hmap, hinside, hapart⟩ := ih
    refine ⟨position :: positions, by simp [located, hmap], ?_, ?_⟩
    · refine List.forall_mem_cons.mpr ⟨⟨within.lower, within.upper⟩, fun own hown => ?_⟩
      obtain ⟨hstart, hstop⟩ := hinside own hown
      exact ⟨htrans within.lower (htrans within.ordered hstart), hstop⟩
    · exact List.pairwise_cons.mpr ⟨fun own hown => (hinside own hown).1, hapart⟩

/-- All nodes among siblings in order, and below them, are laid out. -/
theorem Fit.laidOut (h : Fit le lower upper nodes) : ∀ node ∈ forestNodes nodes, node.LaidOut le := by
  -- Of the siblings behind nothing is needed: each node is laid out with what is below it.
  induction h with
  | nil => simp
  | @cons lower upper node nodes position located within inside behind ihinside ihbehind =>
    cases hchildren : node.children? with
    | none =>
      obtain ⟨value, own, rfl⟩ := eq_text_of_children? hchildren
      refine List.forall_mem_cons.mpr ⟨?_, ihbehind⟩
      exact ⟨position, [], located, rfl, within.ordered, by simp, .nil⟩
    | some children =>
      obtain ⟨inner, hmap, hinner, hapart⟩ := (inside children hchildren).exists_positions htrans
      have hown : node.LaidOut le :=
        ⟨position, inner, located, by rw [hchildren]; exact hmap, within.ordered, hinner, hapart⟩
      exact (forall_mem_forestNodes_of_children? hchildren).mpr ⟨hown, ihinside children hchildren, ihbehind⟩

end Transitive

end Node

/-! ## Parts in order -/

namespace Part

/-- The node that a part is on its own. -/
def alone : Part → Node
  | .fragment value position => .text value (some position)
  | .node child _ => child

variable {le : Point → Point → Prop} (htrans : ∀ ⦃a b c⦄, le a b → le b c → le a c)
include htrans

/-- The text of a run lies where its fragments lie, and what is behind the run lies behind the text. -/
theorem fit_behindRun {lower upper : Point} {value : String} {position : Position} {parts : List Part}
    (h : Node.Fit le lower upper ((fragment value position :: parts).map alone)) :
    let stop := ((frontRun parts).getLast?.getD (value, position)).2.stop
    InOrder le lower position.start stop upper ∧ Node.Fit le stop upper ((behindRun parts).map alone) := by
  induction parts generalizing lower value position with
  | nil =>
    cases h with
    | cons own located within inside behind =>
      cases located
      exact ⟨within, behind⟩
  | cons part parts ih =>
    cases h with
    | cons own located within inside behind =>
      cases located
      cases part with
      | node child proper => exact ⟨within, behind⟩
      | fragment more next =>
        -- The run goes on with the next fragment, which starts behind this one.
        obtain ⟨hnext, hbehind⟩ := ih behind
        rw [frontRun, List.getLast?_cons, Option.getD_some]
        exact ⟨⟨within.lower, htrans within.ordered (htrans hnext.lower hnext.ordered), hnext.upper⟩, hbehind⟩

/-- Parts in order become children in order. -/
theorem fit_nodes {lower upper : Point} {parts : List Part} (h : Node.Fit le lower upper (parts.map alone)) :
    Node.Fit le lower upper (nodes parts) := by
  -- Along the recursion of the children, which takes a whole run of fragments at once.
  induction parts using nodes.induct generalizing lower with
  | case1 =>
    rw [nodes]
    exact .nil lower upper
  | case2 value position parts ih =>
    obtain ⟨hrun, hbehind⟩ := fit_behindRun htrans h
    rw [nodes]
    exact .cons _ rfl hrun (fun children hchildren => by cases hchildren) (ih hbehind)
  | case3 child proper parts ih =>
    rw [nodes]
    cases h with
    | cons position located within inside behind => exact .cons position located within inside (ih behind)

end Part

theorem Event.alone_of_part? {position : Position} {event : Event} {part : Part} (h : event.part? position = some part) :
    part.alone.position? = some position ∧ ∀ children, part.alone.children? = some children → children = [] := by
  cases event <;> simp only [Event.part?, Option.some.injEq, reduceCtorEq] at h <;> subst h
  all_goals simp [Part.alone, Part.leaf, Node.position?, Node.children?]

theorem Tag.position?_read (tag : Tag) (position : Position) (marks : List Bool) (parts : List Part) :
    (tag.read position marks parts).position? = some position := by
  cases tag <;> rfl

theorem Tag.children?_read (tag : Tag) (position : Position) (marks : List Bool) (parts : List Part) :
    (tag.read position marks parts).children? = some [] ∨
      (tag.read position marks parts).children? = some (Part.nodes parts) := by
  cases tag <;> simp [read, Node.children?]

/-! ## Items in order -/

namespace Item

/-- The ranges of a forest lie between two offsets, one behind the other, and those inside a container lie within its
range. -/
inductive RangesFit : Nat → Nat → List Item → Prop where
  | nil (lower upper : Nat) : RangesFit lower upper []
  | single {lower upper : Nat} {items : List Item} (event : Event) (alone : event.standsAlone = true)
      (range : ByteRange) (within : InOrder (· ≤ ·) lower range.start range.stop upper)
      (behind : RangesFit range.stop upper items) :
      RangesFit lower upper (.single event alone range :: items)
  | container {lower upper : Nat} {inner items : List Item} (tag : Tag) (range : ByteRange)
      (within : InOrder (· ≤ ·) lower range.start range.stop upper)
      (inside : RangesFit range.start range.stop inner) (behind : RangesFit range.stop upper items) :
      RangesFit lower upper (.container tag inner range :: items)

variable {le : Point → Point → Prop} (htrans : ∀ ⦃a b c⦄, le a b → le b c → le a c) {index : LineIndex}
  {cut : Nat → Prop} (hpoints : ∀ ⦃a b⦄, cut a → cut b → a ≤ b → le (index.point a) (index.point b))

include hpoints in
theorem inOrder_points {lower start stop upper : Nat} (h : InOrder (· ≤ ·) lower start stop upper) (hlower : cut lower)
    (hstart : cut start) (hstop : cut stop) (hupper : cut upper) :
    InOrder le (index.point lower) (index.point start) (index.point stop) (index.point upper) :=
  ⟨hpoints hlower hstart h.lower, hpoints hstart hstop h.ordered, hpoints hstop hupper h.upper⟩

include htrans hpoints in
/-- If points keep the order of the offsets that the ranges have, then items in order are read as parts in order. -/
theorem RangesFit.parts {lower upper : Nat} {items : List Item} (h : RangesFit lower upper items) (hlower : cut lower)
    (hupper : cut upper) (hcut : ∀ event ∈ forestEvents items, cut event.2.start ∧ cut event.2.stop) :
    Node.Fit le (index.point lower) (index.point upper) ((Item.parts index items).map Part.alone) := by
  induction h with
  | nil => exact .nil _ _
  | @single lower upper items event alone range within behind ih =>
    obtain ⟨⟨hstart, hstop⟩, hitems⟩ := forall_mem_forestEvents_single.mp hcut
    have hwithin := inOrder_points hpoints within hlower hstart hstop hupper
    have hbehind := ih hstop hupper hitems
    rw [Item.parts, part?]
    cases hpart : event.part? (index.position range.start range.stop) with
    | none =>
      -- A task marker has a range, but there is no node in it.
      exact hbehind.of_le htrans (htrans hwithin.lower hwithin.ordered)
    | some part =>
      obtain ⟨hposition, hchildren⟩ := Event.alone_of_part? hpart
      refine .cons _ hposition hwithin (fun children hsome => ?_) hbehind
      rw [hchildren children hsome]
      exact .nil _ _
  | @container lower upper inner items tag range within inside behind ihinside ihbehind =>
    obtain ⟨⟨hstart, hstop⟩, hinner, -, hitems⟩ := forall_mem_forestEvents_container.mp hcut
    have hinside := Part.fit_nodes htrans (ihinside hstart hstop hinner)
    rw [Item.parts, part?]
    refine .cons _ (tag.position?_read ..) (inOrder_points hpoints within hlower hstart hstop hupper)
      (fun children hsome => ?_) (ihbehind hstop hupper hitems)
    -- What stands in a container is in its order, and a container that becomes a text or a leaf has nothing below it.
    rcases tag.children?_read (index.position range.start range.stop) (forestMarks inner) (Item.parts index inner) with
      hread | hread <;> cases hsome.symm.trans hread
    · exact .nil _ _
    · exact hinside

include htrans hpoints in
/-- The nodes of the tree that a forest in order is read as are laid out. -/
theorem RangesFit.tree {items : List Item} (h : RangesFit 0 index.size items) (hzero : cut 0) (hsize : cut index.size)
    (hcut : ∀ event ∈ forestEvents items, cut event.2.start ∧ cut event.2.stop) :
    ∀ node ∈ Item.tree index items :: (Item.tree index items).descendants, node.LaidOut le := by
  have hparts := Part.fit_nodes htrans (h.parts htrans hpoints hzero hsize hcut)
  have hwhole : InOrder (· ≤ ·) 0 0 index.size index.size := ⟨Nat.le_refl _, Nat.zero_le _, Nat.le_refl _⟩
  have hroot : Node.Fit le (index.point 0) (index.point index.size) [Item.tree index items] :=
    .cons (index.position 0 index.size) rfl (inOrder_points hpoints hwhole hzero hzero hsize hsize)
      (fun children hchildren => by cases hchildren; exact hparts) (.nil _ _)
  simpa only [Node.forestNodes_cons, Node.forestNodes_nil, List.append_nil] using hroot.laidOut htrans

end Item

/-! ## Balanced events -/

/-- The tree of balanced events is the reading of their forest, with whatever ranges the containers are closed. -/
theorem value_treeOfEvents_spelling (source : String) {items : List Item} {events : List (Event × ByteRange)}
    (h : Item.Spelling items events) :
    (treeOfEvents source events).value = Item.tree (LineIndex.ofSource source) items := by
  -- The root takes no marks.
  have hmarks : ∀ marks, (Builder.start (LineIndex.ofSource source)).markAll marks =
      Builder.start (LineIndex.ofSource source) := by
    intro marks
    induction marks with
    | nil => rfl
    | cons checked marks ih => exact ih
  rw [treeOfEvents, Builder.feedAll_spelling _ h, Builder.feedAll_forestEvents, hmarks, Builder.addParts_eq]
  exact OpenElement.close_addParts_of_children rfl ⟨rfl, rfl⟩ _

/-- **Positions are nested and ordered.** If the ranges of balanced events lie in order within the source, then so do the
offsets of the positions in the tree: those of every node, of its children within its own, and of each of them behind the one
before. If the ranges are cut between code points, then so do the points. -/
theorem laidOut_treeOfEvents (source : String) {items : List Item} {events : List (Event × ByteRange)}
    (hevents : Item.Spelling items events) (hranges : Item.RangesFit 0 (byteLength source.toList) items) :
    let tree := (treeOfEvents source events).value
    (∀ node ∈ tree :: tree.descendants, node.LaidOut fun first second => first.offset ≤ second.offset) ∧
      ((∀ event ∈ Item.forestEvents items,
          IsBoundary source.toList event.2.start ∧ IsBoundary source.toList event.2.stop) →
        ∀ node ∈ tree :: tree.descendants, node.LaidOut fun first second => (first.order second).isLE = true) := by
  intro tree
  have htree : tree = Item.tree (LineIndex.ofSource source) items := value_treeOfEvents_spelling source hevents
  have hfit : Item.RangesFit 0 (LineIndex.ofSource source).size items := hranges
  have htrans : ∀ ⦃a b c : Point⦄, a.offset ≤ b.offset → b.offset ≤ c.offset → a.offset ≤ c.offset :=
    fun _ _ _ => Nat.le_trans
  have hoffsets : ∀ ⦃a b⦄, True → True → a ≤ b →
      ((LineIndex.ofSource source).point a).offset ≤ ((LineIndex.ofSource source).point b).offset := by
    intro a b _ _ hle
    simp only [LineIndex.point_offset]
    omega
  rw [htree]
  -- Offsets keep the order of all offsets, and points that of the places where the source can be cut.
  constructor
  · exact hfit.tree htrans hoffsets trivial trivial fun _ _ => ⟨trivial, trivial⟩
  · exact hfit.tree @Point.isLE_order_trans (@LineIndex.isLE_order_point source) (isBoundary_zero _) (isBoundary_size _)

/-- A list item with a task marker, and with a text that goes on behind a newline. -/
def markedItem : List Item :=
  [.container .item [.single (.taskMarker true) rfl ⟨2, 5⟩, .single (.text "é") rfl ⟨6, 8⟩,
    .single .softBreak rfl ⟨8, 9⟩, .single (.text "d") rfl ⟨9, 10⟩] ⟨0, 10⟩]

theorem laidOut_treeOfEvents_markedItem :
    let source := "- [x] é\nd"
    let tree := (treeOfEvents source (Item.forestEvents markedItem)).value
    Item.Spelling markedItem (Item.forestEvents markedItem) ∧
      Item.RangesFit 0 (byteLength source.toList) markedItem ∧
      (∀ event ∈ Item.forestEvents markedItem,
        IsBoundary source.toList event.2.start ∧ IsBoundary source.toList event.2.stop) ∧
      (∀ node ∈ tree :: tree.descendants, node.LaidOut fun first second => first.offset ≤ second.offset) ∧
      ∀ node ∈ tree :: tree.descendants, node.LaidOut fun first second => (first.order second).isLE = true := by
  intro source tree
  have hevents := Item.spelling_forestEvents markedItem
  have hsize : byteLength source.toList = 10 := by decide
  have hranges : Item.RangesFit 0 (byteLength source.toList) markedItem := by
    rw [hsize]
    -- All ranges are those of the events, so each bound is a comparison of numbers.
    have hwhole : InOrder (· ≤ ·) 0 0 10 10 := ⟨by decide, by decide, by decide⟩
    exact .container _ _ hwhole
      (.single _ rfl _ ⟨by decide, by decide, by decide⟩ (.single _ rfl _ ⟨by decide, by decide, by decide⟩
        (.single _ rfl _ ⟨by decide, by decide, by decide⟩ (.single _ rfl _ ⟨by decide, by decide, by decide⟩
          (.nil _ _))))) (.nil _ _)
  have hcut : ∀ event ∈ Item.forestEvents markedItem,
      IsBoundary source.toList event.2.start ∧ IsBoundary source.toList event.2.stop := by decide
  obtain ⟨hoffsets, hpoints⟩ := laidOut_treeOfEvents source hevents hranges
  exact ⟨hevents, hranges, hcut, hoffsets, hpoints hcut⟩

end Highlighter
