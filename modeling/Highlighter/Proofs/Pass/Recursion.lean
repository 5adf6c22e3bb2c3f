import Highlighter.Pass
import Highlighter.Proofs.Splitting
import Highlighter.Proofs.Walk.Replacement

/-!
# The pass as a recursion

The pass walks over siblings that change under it. Main statement: what it leaves is a recursion over the tree as it
was, which puts in the place of each text below the root the nodes the text is cut into, and goes nowhere else.
The pass reports as many changed texts as there were texts with a span, so it cuts none twice and misses none,
and it leaves the tree as it is exactly if there were none.
-/

namespace Highlighter

/-- A tree is free of the spans of a marker if no text below its root has one. -/
def Node.SpanFree (marker : Char) (tree : Node) : Prop :=
  ∀ value ∈ tree.innerTexts, ¬HasSpan marker value.toList

namespace Delimiter

variable (delimiter : Delimiter)

/-! ## The recursion -/

mutual

/-- The tree with each text below its root cut at its spans. A root that is itself a text stays whole. -/
def splitBelow : Node → Node
  | .text value position => .text value position
  | .highlight value children position => .highlight value (splitAmong children) position
  | .element kind value attributes children position =>
    .element kind value attributes (splitAmong children) position

/-- The siblings with each text among and below them cut at its spans. -/
def splitAmong : List Node → List Node
  | [] => []
  | .text value position :: nodes => delimiter.split value position ++ splitAmong nodes
  | node :: nodes => splitBelow node :: splitAmong nodes

end

@[simp] theorem splitAmong_nil : delimiter.splitAmong [] = [] := by
  simp only [splitAmong]

@[simp] theorem splitAmong_text (value : String) (position : Option Position) (nodes : List Node) :
    delimiter.splitAmong (.text value position :: nodes) =
      delimiter.split value position ++ delimiter.splitAmong nodes := by
  simp only [splitAmong]

theorem splitBelow_of_children? {tree : Node} {children : List Node}
    (h : tree.children? = some children) :
    delimiter.splitBelow tree = tree.withChildren (delimiter.splitAmong children) := by
  cases tree with
  | text value position => simp [Node.children?] at h
  | highlight value own position =>
    obtain rfl : own = children := by simpa [Node.children?] using h
    simp only [splitBelow, Node.withChildren]
  | element kind value attributes own position =>
    obtain rfl : own = children := by simpa [Node.children?] using h
    simp only [splitBelow, Node.withChildren]

theorem splitAmong_of_children? {node : Node} {children nodes : List Node}
    (h : node.children? = some children) :
    delimiter.splitAmong (node :: nodes) =
      node.withChildren (delimiter.splitAmong children) :: delimiter.splitAmong nodes := by
  have hbelow := delimiter.splitBelow_of_children? h
  cases node with
  | text value position => simp [Node.children?] at h
  | highlight value own position => simp only [splitAmong, hbelow]
  | element kind value attributes own position => simp only [splitAmong, hbelow]

/-- A tree is cut among siblings as it is cut by itself, unless it is a text. -/
theorem splitAmong_singleton {tree : Node} (h : tree.isText = false) :
    delimiter.splitAmong [tree] = [delimiter.splitBelow tree] := by
  cases hchildren : tree.children? with
  | none =>
    rw [(tree.children?_eq_none_iff).mp hchildren] at h
    cases h
  | some children =>
    rw [delimiter.splitAmong_of_children? hchildren, splitAmong_nil, delimiter.splitBelow_of_children? hchildren]

/-! ## The rule of the pass -/

/-- The pass as a rule: a text with a span gives way to the nodes it is cut into, and is counted and reported. -/
def rule : Walk.Rule Progress := fun progress index value position =>
  match delimiter.splitIfNeeded value position with
  | none => (progress, none)
  | some nodes =>
    (⟨progress.changed + 1, .textSplit index delimiter.fence nodes.length :: progress.records⟩, some nodes)

/-- The pass visits texts by its rule. -/
theorem visitText_eq : delimiter.visitText = delimiter.rule.visitor := by
  funext progress siblings index
  simp only [visitText, Walk.Rule.visitor, rule]
  cases hget : siblings[index]? with
  | none => rfl
  | some node =>
    -- The index is that of a child, so the replacement cannot fail.
    have hindex : index < siblings.length := (List.getElem?_eq_some_iff.mp hget).1
    cases node with
    | text value position =>
      cases hsplit : delimiter.splitIfNeeded value position with
      | none => simp only [hsplit]
      | some nodes => simp [hsplit, replaceChild, hindex, Logged.silent]
    | highlight value children position => rfl
    | element kind value attributes children position => rfl

theorem nodesFor_rule (progress : Progress) (index : Nat) (value : String)
    (position : Option Position) :
    delimiter.rule.nodesFor progress index value position = delimiter.split value position := by
  simp only [Walk.Rule.nodesFor, rule, split]
  cases delimiter.splitIfNeeded value position <;> rfl

theorem changed_rule (progress : Progress) (index : Nat) (value : String)
    (position : Option Position) :
    (delimiter.rule progress index value position).1.changed =
      progress.changed + if delimiter.isMatch value then 1 else 0 := by
  simp only [rule, splitIfNeeded]
  cases delimiter.isMatch value <;> simp

/-- Over siblings, the rule makes the recursion, and counts the texts that have a span. -/
theorem rewriteAmong_rule (progress : Progress) (index : Nat) (nodes : List Node) :
    (delimiter.rule.rewriteAmong progress index nodes).2 = delimiter.splitAmong nodes ∧
      (delimiter.rule.rewriteAmong progress index nodes).1.changed =
        progress.changed + (Node.forestTexts nodes).countP delimiter.isMatch := by
  induction nodes using Node.forestInduction generalizing progress index with
  | nil => simp [Walk.Rule.rewriteAmong]
  | text value position nodes ih =>
    obtain ⟨hnodes, hchanged⟩ := ih (delimiter.rule progress index value position).1
      (index + (delimiter.split value position).length)
    -- The text itself counts if it has a span; the nodes put in for it move the index on.
    simp only [Walk.Rule.rewriteAmong, nodesFor_rule, splitAmong_text, hnodes, hchanged, changed_rule,
      Node.forestTexts_text, List.countP_cons, true_and]
    omega
  | parent node children nodes hchildren ihchildren ihnodes =>
    obtain ⟨hinner, hinnerChanged⟩ := ihchildren progress 0
    obtain ⟨hnodes, hchanged⟩ := ihnodes (delimiter.rule.rewriteAmong progress 0 children).1 (index + 1)
    simp only [delimiter.rule.rewriteAmong_of_children? _ _ hchildren, delimiter.splitAmong_of_children? hchildren,
      Node.forestTexts_of_children? hchildren, hinner, hnodes, hchanged, hinnerChanged,
      List.countP_append, true_and]
    omega

/-! ## Trees without spans -/

/-- Siblings stay as they are exactly if no text among or below them has a span. -/
theorem splitAmong_eq_self_iff (nodes : List Node) :
    delimiter.splitAmong nodes = nodes ↔
      ∀ value ∈ Node.forestTexts nodes, ¬HasSpan delimiter.marker value.toList := by
  induction nodes using Node.forestInduction with
  | nil => simp
  | text value position nodes ih =>
    rw [splitAmong_text, Node.forestTexts_text, List.forall_mem_cons, ← ih]
    constructor
    · intro heq
      -- The text is the first of the nodes it was cut into, so it has no span.
      have hspan : ¬HasSpan delimiter.marker value.toList := by
        obtain ⟨node, more, hcut⟩ := List.exists_cons_of_ne_nil (delimiter.split_ne_nil value position)
        rw [hcut, List.cons_append, List.cons.injEq] at heq
        have hmem : .text value position ∈ delimiter.split value position := by
          rw [hcut, heq.1]
          exact List.mem_cons_self ..
        exact (delimiter.text_of_mem_split value position hmem).2.1
      rw [delimiter.split_of_not_hasSpan position hspan] at heq
      exact ⟨hspan, (List.cons.inj heq).2⟩
    · rintro ⟨hspan, heq⟩
      rw [delimiter.split_of_not_hasSpan position hspan, heq]
      rfl
  | parent node children nodes hchildren ihchildren ihnodes =>
    -- A node with children stays if they do, and so do those behind it.
    rw [delimiter.splitAmong_of_children? hchildren, Node.forestTexts_of_children? hchildren,
      List.forall_mem_append, ← ihchildren, ← ihnodes, List.cons.injEq,
      Node.withChildren_eq_self_iff hchildren]

/-- A tree stays as it is exactly if no text below its root has a span. -/
theorem splitBelow_eq_self_iff (tree : Node) :
    delimiter.splitBelow tree = tree ↔ tree.SpanFree delimiter.marker := by
  cases hchildren : tree.children? with
  | none =>
    obtain ⟨value, position, rfl⟩ := Node.eq_text_of_children? hchildren
    simp [splitBelow, Node.SpanFree, Node.innerTexts]
  | some children =>
    rw [delimiter.splitBelow_of_children? hchildren, Node.withChildren_eq_self_iff hchildren,
      splitAmong_eq_self_iff, Node.SpanFree, Node.innerTexts_of_children? hchildren]

/-! ## The pass -/

/-- The walk of a pass does not run out of budget, and makes the recursion. -/
theorem highlight_eq (tree : Node) :
    ∃ records, delimiter.highlight tree =
      ⟨delimiter.splitBelow tree,
        records ++ [.passDone (tree.innerTexts.countP delimiter.isMatch)]⟩ := by
  -- The walk is that of the rule, and it is given as much budget as the tree has nodes.
  have hwalk := delimiter.rule.texts_visitor ⟨0, []⟩ tree (Nat.le_refl _)
  rw [← visitText_eq] at hwalk
  have hbelow : (delimiter.rule.rewriteBelow ⟨0, []⟩ tree).2 = delimiter.splitBelow tree ∧
      (delimiter.rule.rewriteBelow ⟨0, []⟩ tree).1.changed = tree.innerTexts.countP delimiter.isMatch := by
    cases hchildren : tree.children? with
    | none =>
      obtain ⟨value, position, rfl⟩ := Node.eq_text_of_children? hchildren
      simp [splitBelow, Walk.Rule.rewriteBelow, Node.innerTexts]
    | some children =>
      obtain ⟨hnodes, hchanged⟩ := delimiter.rewriteAmong_rule ⟨0, []⟩ 0 children
      rw [Nat.zero_add] at hchanged
      rw [delimiter.rule.rewriteBelow_of_children? _ hchildren, delimiter.splitBelow_of_children? hchildren,
        Node.innerTexts_of_children? hchildren, hnodes]
      exact ⟨rfl, hchanged⟩
  simp only [highlight, hwalk, hbelow]
  exact ⟨_, rfl⟩

@[simp] theorem value_highlight (tree : Node) :
    (delimiter.highlight tree).value = delimiter.splitBelow tree := by
  obtain ⟨records, heq⟩ := delimiter.highlight_eq tree
  rw [heq]

/-- **A pass is the recursion over the tree as it was.** It leaves the tree as it is exactly if no text below the
root has a span, and it reports as many changed texts as there were texts with a span. -/
theorem highlight_recursion (tree : Node) :
    (delimiter.highlight tree).value = delimiter.splitBelow tree ∧
      ((delimiter.highlight tree).value = tree ↔ tree.SpanFree delimiter.marker) ∧
      (delimiter.highlight tree).records.getLast? =
        some (.passDone (tree.innerTexts.countP delimiter.isMatch)) := by
  refine ⟨delimiter.value_highlight tree, ?_, ?_⟩
  · rw [value_highlight, splitBelow_eq_self_iff]
  · obtain ⟨records, heq⟩ := delimiter.highlight_eq tree
    rw [heq]
    simp

end Delimiter

end Highlighter
