import Highlighter.Pipeline
import Highlighter.Proofs.Pass.Recursion

/-!
# Sequences of passes

Passes with various markers, one after the other. Main statement: once a marker had its pass, no text has a span
of it, whatever passes came after, so running passes again changes nothing.

What carries the argument is that a pass only ever cuts. Each text behind it, a gap or a content, is a piece of a
text there was before, and a span in a piece is a span of the whole. So no pass makes a span that was not there.
-/

namespace Highlighter

/-- The pipeline that highlights the spans of one delimiter after the other. -/
def Pipeline.highlighting (delimiters : List Delimiter) : Pipeline := ⟨delimiters.map Delimiter.stage⟩

/-- What the highlight passes of delimiters, one after the other, leave of a tree. -/
def passes (delimiters : List Delimiter) (tree : Node) : Node :=
  ((Pipeline.highlighting delimiters).run tree).value

/-! ## Running passes -/

@[simp] theorem passes_nil (tree : Node) : passes [] tree = tree := rfl

/-- The first pass is run on the tree, the others on what it leaves. -/
@[simp] theorem passes_cons (delimiter : Delimiter) (delimiters : List Delimiter) (tree : Node) :
    passes (delimiter :: delimiters) tree = passes delimiters (delimiter.splitBelow tree) := by
  simp only [passes, Pipeline.highlighting, Pipeline.run, List.map_cons, List.foldlM_cons, Stage.run,
    Delimiter.stage, Logged.value_bind, Delimiter.value_highlight]

theorem passes_append (first second : List Delimiter) (tree : Node) :
    passes (first ++ second) tree = passes second (passes first tree) := by
  induction first generalizing tree with
  | nil => rfl
  | cons delimiter first ih => rw [List.cons_append, passes_cons, passes_cons, ih]

/-! ## Pieces -/

namespace Delimiter

variable (delimiter : Delimiter)

/-- Each text that a pass leaves has no span of its marker, and is a piece of a text there was. -/
theorem piece_of_mem_forestTexts_splitAmong {nodes : List Node} {value : String}
    (h : value ∈ Node.forestTexts (delimiter.splitAmong nodes)) :
    ¬HasSpan delimiter.marker value.toList ∧
      ∃ whole ∈ Node.forestTexts nodes, value.toList <:+: whole.toList := by
  induction nodes using Node.forestInduction with
  | nil => simp at h
  | text whole position nodes ih =>
    -- The texts come out of this text, or out of its siblings.
    rw [splitAmong_text, Node.forestTexts_append] at h
    rcases List.mem_append.mp h with hcut | hrest
    · obtain ⟨hspan, hpiece⟩ := delimiter.piece_of_mem_forestTexts_split whole position hcut
      exact ⟨hspan, whole, List.mem_cons_self .., hpiece⟩
    · obtain ⟨hspan, old, hold, hpiece⟩ := ih hrest
      exact ⟨hspan, old, List.mem_cons_of_mem _ hold, hpiece⟩
  | parent node children nodes hchildren ihchildren ihnodes =>
    have hnew := node.children?_withChildren (delimiter.splitAmong children)
      (Node.isText_of_children? hchildren)
    rw [delimiter.splitAmong_of_children? hchildren, Node.forestTexts_of_children? hnew] at h
    rw [Node.forestTexts_of_children? hchildren]
    rcases List.mem_append.mp h with hinner | hrest
    · obtain ⟨hspan, old, hold, hpiece⟩ := ihchildren hinner
      exact ⟨hspan, old, List.mem_append_left _ hold, hpiece⟩
    · obtain ⟨hspan, old, hold, hpiece⟩ := ihnodes hrest
      exact ⟨hspan, old, List.mem_append_right _ hold, hpiece⟩

theorem piece_of_mem_innerTexts_splitBelow {tree : Node} {value : String}
    (h : value ∈ (delimiter.splitBelow tree).innerTexts) :
    ¬HasSpan delimiter.marker value.toList ∧
      ∃ whole ∈ tree.innerTexts, value.toList <:+: whole.toList := by
  cases hchildren : tree.children? with
  | none =>
    -- A text without a parent has no inner texts.
    obtain ⟨own, position, rfl⟩ := Node.eq_text_of_children? hchildren
    simp [splitBelow, Node.innerTexts] at h
  | some children =>
    -- The inner texts of a node are those of its children, which the pass cuts.
    have hnew := tree.children?_withChildren (delimiter.splitAmong children)
      (Node.isText_of_children? hchildren)
    rw [delimiter.splitBelow_of_children? hchildren, Node.innerTexts_of_children? hnew] at h
    rw [Node.innerTexts_of_children? hchildren]
    exact delimiter.piece_of_mem_forestTexts_splitAmong h

theorem spanFree_splitBelow (tree : Node) : (delimiter.splitBelow tree).SpanFree delimiter.marker := by
  intro value hvalue
  exact (delimiter.piece_of_mem_innerTexts_splitBelow hvalue).1

end Delimiter

/-! ## Spans do not come back -/

/-- No pass makes a span, whatever the markers are. -/
theorem Node.SpanFree.splitBelow {marker : Char} {tree : Node} (h : tree.SpanFree marker)
    (delimiter : Delimiter) : (delimiter.splitBelow tree).SpanFree marker := by
  intro value hvalue hspan
  obtain ⟨-, whole, hwhole, hpiece⟩ := delimiter.piece_of_mem_innerTexts_splitBelow hvalue
  exact h whole hwhole (hspan.of_infix hpiece)

theorem Node.SpanFree.passes {marker : Char} {tree : Node} (h : tree.SpanFree marker)
    (delimiters : List Delimiter) : (passes delimiters tree).SpanFree marker := by
  induction delimiters generalizing tree with
  | nil => exact h
  | cons delimiter delimiters ih =>
    rw [passes_cons]
    exact ih (h.splitBelow delimiter)

theorem spanFree_passes {delimiter : Delimiter} {delimiters : List Delimiter}
    (h : delimiter ∈ delimiters) (tree : Node) : (passes delimiters tree).SpanFree delimiter.marker := by
  -- The pass of the marker frees the tree of its spans, and the passes after it make none.
  obtain ⟨before, after, rfl⟩ := List.append_of_mem h
  rw [passes_append, passes_cons]
  exact (delimiter.spanFree_splitBelow _).passes after

/-- Passes leave a tree as it is if it has no spans of their markers. -/
theorem passes_eq_self {delimiters : List Delimiter} {tree : Node}
    (h : ∀ delimiter ∈ delimiters, tree.SpanFree delimiter.marker) : passes delimiters tree = tree := by
  induction delimiters with
  | nil => rfl
  | cons delimiter delimiters ih =>
    obtain ⟨hfirst, hothers⟩ := List.forall_mem_cons.mp h
    rw [passes_cons, (delimiter.splitBelow_eq_self_iff tree).mpr hfirst]
    exact ih hothers

/-- **Passes settle.** Behind a sequence of passes no text has a span of any of their markers, so each pass of
the sequence, run again at the end, alone or among others of them, leaves the tree as it is. -/
theorem passes_settle (tree : Node) (delimiters again : List Delimiter)
    (h : ∀ delimiter ∈ again, delimiter ∈ delimiters) :
    (∀ delimiter ∈ delimiters, (passes delimiters tree).SpanFree delimiter.marker) ∧
      passes (delimiters ++ again) tree = passes delimiters tree := by
  have hfree : ∀ delimiter ∈ delimiters, (passes delimiters tree).SpanFree delimiter.marker := by
    intro delimiter hmem
    exact spanFree_passes hmem tree
  refine ⟨hfree, ?_⟩
  rw [passes_append]
  apply passes_eq_self
  intro delimiter hmem
  exact hfree delimiter (h delimiter hmem)

/-- A document that has a span inside the span of another marker. -/
def nestedSpans : Node := .element "root" none .empty [.text "!!a ==b== c!! ==d!!e!!f==" none] none

/-- The markers of the spans of `nestedSpans`, the outer one first. -/
def nestedDelimiters : List Delimiter := [.standard, ⟨'=', by decide⟩]

/-- The second pass cuts the highlight that the first one made, and then the first marker has nothing left. -/
theorem passes_settle_nested :
    (∀ delimiter ∈ [Delimiter.standard], delimiter ∈ nestedDelimiters) ∧
      (∀ delimiter ∈ nestedDelimiters,
        (passes nestedDelimiters nestedSpans).SpanFree delimiter.marker) ∧
      passes (nestedDelimiters ++ [.standard]) nestedSpans = passes nestedDelimiters nestedSpans := by
  have hmem : ∀ delimiter ∈ [Delimiter.standard], delimiter ∈ nestedDelimiters := by
    intro delimiter hdelimiter
    rw [List.mem_singleton.mp hdelimiter]
    exact List.mem_cons_self ..
  exact ⟨hmem, passes_settle nestedSpans nestedDelimiters [.standard] hmem⟩

end Highlighter
