import Highlighter.Proofs.Pass.Sequence

/-!
# Highlights and their children

A highlight is made with one child, a text that repeats its value. A pass goes into the highlights it finds, and
cuts that child like any other text, while the value stays. Main statement: the highlights of a tree repeat their
values behind a sequence of passes exactly if they did so before, and no pass met a highlight with a span
of its own marker in the value.

The highlights that a pass makes repeat their values. Two markers are enough to break one: the pass of the second
cuts the child of a highlight that the pass of the first has made.
-/

namespace Highlighter

namespace Node

/-! ## Highlights that repeat their values -/

/-- A highlight repeats its value if its one child is a text with that value. Other nodes have nothing to repeat. -/
def RepeatsValue : Node → Prop
  | .text .. => True
  | .highlight value [.text own _] _ => own = value
  | .highlight .. => False
  | .element .. => True

instance : DecidablePred RepeatsValue
  | .text .. => .isTrue trivial
  | .highlight value [.text own _] _ => inferInstanceAs (Decidable (own = value))
  | .highlight _ [] _ => .isFalse id
  | .highlight _ [.highlight ..] _ => .isFalse id
  | .highlight _ [.element ..] _ => .isFalse id
  | .highlight _ (_ :: _ :: _) _ => .isFalse (by simp [RepeatsValue])
  | .element .. => .isTrue trivial

theorem repeatsValue_highlight_iff {value : String} {children : List Node} {position : Option Position} :
    (highlight value children position).RepeatsValue ↔ ∃ own, children = [.text value own] := by
  match children with
  | [.text other own] => simp [RepeatsValue]
  | [] => simp [RepeatsValue]
  | [.highlight ..] => simp [RepeatsValue]
  | [.element ..] => simp [RepeatsValue]
  | _ :: _ :: _ => simp [RepeatsValue]

/-- The highlights among siblings and below them repeat their values. -/
def ForestRepeats (nodes : List Node) : Prop := ∀ node ∈ forestNodes nodes, node.RepeatsValue

/-- The highlights of a tree repeat their values. -/
def HighlightsRepeat (tree : Node) : Prop := ForestRepeats [tree]

instance : DecidablePred HighlightsRepeat :=
  fun tree => inferInstanceAs (Decidable (∀ node ∈ forestNodes [tree], node.RepeatsValue))

theorem forestRepeats_append {xs ys : List Node} :
    ForestRepeats (xs ++ ys) ↔ ForestRepeats xs ∧ ForestRepeats ys := by
  simp only [ForestRepeats, forestNodes_append, List.forall_mem_append]

theorem forestRepeats_of_children? {node : Node} {children nodes : List Node}
    (h : node.children? = some children) :
    ForestRepeats (node :: nodes) ↔
      node.RepeatsValue ∧ ForestRepeats children ∧ ForestRepeats nodes := by
  simp only [ForestRepeats, forestNodes_cons, descendants_of_children? h, List.cons_append,
    List.forall_mem_cons, List.forall_mem_append]

end Node

namespace Delimiter

variable (delimiter : Delimiter)

/-! ## One pass -/

theorem forestRepeats_split (text : String) (position : Option Position) :
    Node.ForestRepeats (delimiter.split text position) := by
  intro node hnode
  rcases delimiter.mem_forestNodes_split text position hnode with hsplit | ⟨value, rfl, -⟩
  · -- A highlight of the cut has one text below it, the one that it was made of.
    cases node with
    | text value own => exact trivial
    | highlight value children own =>
      obtain ⟨-, -, hchildren, -⟩ := delimiter.highlight_of_mem_split text position hsplit
      exact Node.repeatsValue_highlight_iff.mpr ⟨none, hchildren⟩
    | element kind value attributes children own => exact trivial
  · exact trivial

/-- A text that is cut into one text is that text, and has no span. -/
theorem split_eq_text_iff {text value : String} {position own : Option Position} :
    delimiter.split text position = [.text value own] ↔
      text = value ∧ position = own ∧ ¬HasSpan delimiter.marker value.toList := by
  constructor
  · intro hcut
    have hlossless := delimiter.join_written_split text position
    have hmem : .text value own ∈ delimiter.split text position := by simp [hcut]
    obtain ⟨-, hposition⟩ := delimiter.carried_of_mem_split text position hmem
    obtain ⟨-, hspan, -⟩ := delimiter.text_of_mem_split text position hmem
    have hvalue : value = text := by simpa [hcut, Node.written, String.join] using hlossless
    exact ⟨hvalue.symm, hposition.symm, hspan⟩
  · rintro ⟨rfl, rfl, hspan⟩
    exact delimiter.split_of_not_hasSpan position hspan

theorem splitAmong_eq_nil_iff {nodes : List Node} : delimiter.splitAmong nodes = [] ↔ nodes = [] := by
  cases nodes with
  | nil => simp
  | cons node nodes =>
    cases hchildren : node.children? with
    | none =>
      obtain ⟨value, position, rfl⟩ := Node.eq_text_of_children? hchildren
      simp [delimiter.split_ne_nil]
    | some children => simp [delimiter.splitAmong_of_children? hchildren]

/-- A pass leaves a lone text only of that same text without a span. -/
theorem splitAmong_eq_text_iff {nodes : List Node} {value : String} {position : Option Position} :
    delimiter.splitAmong nodes = [.text value position] ↔
      nodes = [.text value position] ∧ ¬HasSpan delimiter.marker value.toList := by
  cases nodes with
  | nil => simp
  | cons node nodes =>
    cases hchildren : node.children? with
    | none =>
      obtain ⟨text, own, rfl⟩ := Node.eq_text_of_children? hchildren
      -- The cut of the first text is not empty, so nothing can stand behind it.
      have hne := delimiter.split_ne_nil text own
      simp only [splitAmong_text, List.append_eq_singleton_iff, hne, false_and, false_or,
        split_eq_text_iff, splitAmong_eq_nil_iff, List.cons.injEq, Node.text.injEq]
      tauto
    | some children =>
      -- Neither the node nor what the pass makes of it is a text.
      have hnew : node.withChildren (delimiter.splitAmong children) ≠ .text value position := by
        intro heq
        have hsome := node.children?_withChildren (delimiter.splitAmong children)
          (Node.isText_of_children? hchildren)
        rw [heq] at hsome
        cases hsome
      have hold : node ≠ .text value position := by
        rintro rfl
        cases hchildren
      simp [delimiter.splitAmong_of_children? hchildren, hnew, hold]

/-- A highlight repeats its value behind a pass exactly if it did so before, and the value has no span. -/
theorem repeatsValue_splitAmong_iff {value : String} {children : List Node}
    {position : Option Position} :
    (Node.highlight value (delimiter.splitAmong children) position).RepeatsValue ↔
      (Node.highlight value children position).RepeatsValue ∧
        ¬HasSpan delimiter.marker value.toList := by
  rw [Node.repeatsValue_highlight_iff, Node.repeatsValue_highlight_iff]
  simp only [splitAmong_eq_text_iff, exists_and_right]

theorem forestRepeats_splitAmong_iff (nodes : List Node) :
    Node.ForestRepeats (delimiter.splitAmong nodes) ↔
      Node.ForestRepeats nodes ∧
        ∀ value ∈ Node.forestHighlights nodes, ¬HasSpan delimiter.marker value.toList := by
  induction nodes using Node.forestInduction with
  | nil => simp [Node.ForestRepeats, Node.forestHighlights]
  | text value position nodes ih =>
    -- The text gives way to nodes that repeat their values, and is no highlight itself.
    have hcut := delimiter.forestRepeats_split value position
    have hvalues : Node.forestHighlights (.text value position :: nodes) = Node.forestHighlights nodes := rfl
    have htext : Node.ForestRepeats (.text value position :: nodes) ↔ Node.ForestRepeats nodes := by
      simp [Node.ForestRepeats, Node.RepeatsValue]
    rw [splitAmong_text, Node.forestRepeats_append, hvalues, htext, ← ih]
    exact and_iff_right hcut
  | parent node children nodes hchildren ihchildren ihnodes =>
    have hnew := node.children?_withChildren (delimiter.splitAmong children)
      (Node.isText_of_children? hchildren)
    rw [delimiter.splitAmong_of_children? hchildren, Node.forestRepeats_of_children? hnew,
      Node.forestRepeats_of_children? hchildren, ihchildren, ihnodes,
      Node.forestHighlights_of_children? hchildren]
    cases node with
    | text value position => cases hchildren
    | highlight value own position =>
      -- The highlight itself is where its value may get a condition.
      obtain rfl : own = children := by simpa [Node.children?] using hchildren
      simp only [Node.withChildren, repeatsValue_splitAmong_iff, Node.highlightValue?,
        Option.toList_some, List.cons_append, List.nil_append, List.forall_mem_cons, List.forall_mem_append]
      tauto
    | element kind value attributes own position =>
      simp only [Node.withChildren, Node.RepeatsValue, Node.highlightValue?, Option.toList_none,
        List.nil_append, List.forall_mem_append]
      tauto

/-- Behind a pass, the highlights of a tree repeat their values exactly if they did so before, and none has a span
in its value. -/
theorem highlightsRepeat_splitBelow_iff (tree : Node) :
    (delimiter.splitBelow tree).HighlightsRepeat ↔
      tree.HighlightsRepeat ∧
        ∀ value ∈ tree.highlightValues, ¬HasSpan delimiter.marker value.toList := by
  cases hchildren : tree.children? with
  | none =>
    obtain ⟨value, position, rfl⟩ := Node.eq_text_of_children? hchildren
    simp [splitBelow, Node.HighlightsRepeat, Node.highlightValues, Node.forestHighlights,
      Node.highlightValue?]
  | some children =>
    -- A root that is no text is treated like a lone sibling.
    have htree := delimiter.forestRepeats_splitAmong_iff [tree]
    rw [delimiter.splitAmong_of_children? hchildren, ← delimiter.splitBelow_of_children? hchildren,
      splitAmong_nil] at htree
    exact htree

end Delimiter

/-! ## Sequences of passes -/

/-- What holds at each place of a list with one more item at its front holds at the front and, with that item
before it, at each place of the list. -/
theorem forall_eq_append_cons_iff {α : Type} {first : α} {items : List α} {p : List α → α → Prop} :
    (∀ before item after, first :: items = before ++ item :: after → p before item) ↔
      p [] first ∧ ∀ before item after, items = before ++ item :: after → p (first :: before) item := by
  constructor
  · intro h
    -- The place with nothing before it is that of the new item.
    refine ⟨h [] first items rfl, ?_⟩
    rintro before item after rfl
    exact h (first :: before) item after rfl
  · rintro ⟨hfirst, hothers⟩ before item after heq
    cases before with
    | nil =>
      obtain ⟨rfl, -⟩ := List.cons.inj heq
      exact hfirst
    | cons other before =>
      obtain ⟨rfl, hitems⟩ := List.cons.inj heq
      exact hothers before item after hitems

/-- **When highlights repeat their values.** Behind a sequence of passes the highlights of a tree repeat their
values exactly if they did so before, and no pass met a highlight with a span of its marker in the value. -/
theorem highlightsRepeat_passes_iff (tree : Node) (delimiters : List Delimiter) :
    (passes delimiters tree).HighlightsRepeat ↔
      tree.HighlightsRepeat ∧
        ∀ before delimiter after, delimiters = before ++ delimiter :: after →
          ∀ value ∈ (passes before tree).highlightValues, ¬HasSpan delimiter.marker value.toList := by
  induction delimiters generalizing tree with
  | nil => simp
  | cons first delimiters ih =>
    -- The condition on the first pass is about the tree as it is, the others are about what that pass leaves.
    rw [passes_cons, ih, first.highlightsRepeat_splitBelow_iff, forall_eq_append_cons_iff]
    simp only [passes_nil, passes_cons, and_assoc]

/-- Passes with two markers leave a highlight whose children do not repeat its value. -/
theorem not_highlightsRepeat_passes :
    nestedSpans.HighlightsRepeat ∧ ¬(passes nestedDelimiters nestedSpans).HighlightsRepeat := by
  decide +kernel

end Highlighter
