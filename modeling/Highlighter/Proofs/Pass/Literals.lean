import Highlighter.Proofs.Builder.Literals
import Highlighter.Proofs.Pass.Sequence

/-!
# Passes and literal elements

What code, formulas, raw HTML and images show is out of the reach of passes. Main statement: in a tree that was built
from events, these elements have no children, and behind any passes they are the same elements in the same order.

A pass cuts texts that have a parent. No cut makes an element, and an element without children has no text to cut, so
a literal element comes out of a pass as it was, whatever its value is.
-/

namespace Highlighter

namespace Node

/-- The elements of literal kinds among siblings and below them in document order. -/
def forestLiterals (nodes : List Node) : List Node := (forestNodes nodes).filter isLiteral

/-- The elements of literal kinds in a tree in document order. -/
def literals (tree : Node) : List Node := forestLiterals [tree]

theorem mem_literals {tree node : Node} :
    node ∈ tree.literals ↔ node ∈ tree :: tree.descendants ∧ node.isLiteral = true := by
  simp [literals, forestLiterals]

theorem forestLiterals_append (xs ys : List Node) :
    forestLiterals (xs ++ ys) = forestLiterals xs ++ forestLiterals ys := by
  simp [forestLiterals]

theorem forestLiterals_of_children? {node : Node} {children nodes : List Node}
    (h : node.children? = some children) :
    forestLiterals (node :: nodes) =
      (if node.isLiteral then [node] else []) ++ (forestLiterals children ++ forestLiterals nodes) := by
  simp only [forestLiterals, forestNodes_cons, descendants_of_children? h, List.cons_append,
    List.filter_cons, List.filter_append]
  split <;> rfl

theorem isLiteral_withChildren (node : Node) (children : List Node) :
    (node.withChildren children).isLiteral = node.isLiteral := by
  cases node <;> rfl

end Node

namespace Delimiter

variable (delimiter : Delimiter)

theorem forestLiterals_split (text : String) (position : Option Position) :
    Node.forestLiterals (delimiter.split text position) = [] := by
  apply List.filter_eq_nil_iff.mpr
  intro node hnode hliteral
  rcases delimiter.mem_forestNodes_split text position hnode with hsplit | ⟨value, rfl, -⟩
  · -- Only an element is of a literal kind, and no cut makes one.
    obtain ⟨hkind, -⟩ := delimiter.carried_of_mem_split text position hsplit
    cases node <;> simp_all [Node.isText, Node.isHighlight, Node.isLiteral]
  · simp [Node.isLiteral] at hliteral

theorem forestLiterals_splitAmong {nodes : List Node}
    (h : ∀ node ∈ Node.forestLiterals nodes, node.children? = some []) :
    Node.forestLiterals (delimiter.splitAmong nodes) = Node.forestLiterals nodes := by
  induction nodes using Node.forestInduction with
  | nil => rw [splitAmong_nil]
  | text value position nodes ih =>
    -- A cut makes no literals of a text, which is none itself.
    rw [splitAmong_text, Node.forestLiterals_append, delimiter.forestLiterals_split]
    exact ih h
  | parent node children nodes hchildren ihchildren ihnodes =>
    have hnew := node.children?_withChildren (delimiter.splitAmong children)
      (Node.isText_of_children? hchildren)
    rw [Node.forestLiterals_of_children? hchildren] at h
    obtain ⟨hnode, hbelow⟩ := List.forall_mem_append.mp h
    obtain ⟨hinner, hnodes⟩ := List.forall_mem_append.mp hbelow
    rw [delimiter.splitAmong_of_children? hchildren, Node.forestLiterals_of_children? hnew,
      Node.forestLiterals_of_children? hchildren, Node.isLiteral_withChildren, ihchildren hinner,
      ihnodes hnodes]
    by_cases hliteral : node.isLiteral = true
    · -- There is nothing below the node, so it stays the same node.
      have hempty : node.children? = some [] := by
        apply hnode
        simp [hliteral]
      obtain rfl : children = [] := by simpa [hchildren] using hempty
      have hsame : node.withChildren (delimiter.splitAmong []) = node := by
        rw [Node.withChildren_eq_self_iff hchildren, splitAmong_nil]
      rw [hsame]
    · -- The node is no literal, so that only those below it and behind it count.
      rw [if_neg hliteral, if_neg hliteral]

theorem literals_splitBelow {tree : Node} (h : ∀ node ∈ tree.literals, node.children? = some []) :
    (delimiter.splitBelow tree).literals = tree.literals := by
  cases hchildren : tree.children? with
  | none =>
    -- A root that is a text stays whole.
    obtain ⟨value, position, rfl⟩ := Node.eq_text_of_children? hchildren
    rw [splitBelow]
  | some children =>
    have hforest := delimiter.forestLiterals_splitAmong h
    rwa [delimiter.splitAmong_singleton (Node.isText_of_children? hchildren)] at hforest

end Delimiter

/-- Passes leave the literal elements of a tree as they are, if these have no children. -/
theorem literals_passes {tree : Node} (h : ∀ node ∈ tree.literals, node.children? = some [])
    (delimiters : List Delimiter) : (passes delimiters tree).literals = tree.literals := by
  induction delimiters generalizing tree with
  | nil => rfl
  | cons delimiter delimiters ih =>
    have hstep := delimiter.literals_splitBelow h
    rw [passes_cons, ← hstep]
    apply ih
    rw [hstep]
    exact h

/-- **Literal content is out of reach.** In the tree of any events the elements of literal kinds have no children. Behind
any passes this is still so, and they are the same elements, in the same order. -/
theorem literals_passes_treeOfEvents (source : String) (events : List (Event × ByteRange))
    (delimiters : List Delimiter) :
    let built := (treeOfEvents source events).value
    let tree := passes delimiters built
    (∀ node ∈ built :: built.descendants, node.isLiteral = true → node.children? = some []) ∧
      (∀ node ∈ tree :: tree.descendants, node.isLiteral = true → node.children? = some []) ∧
      tree.literals = built.literals := by
  intro built tree
  -- A literal of the built tree has no children since its content was joined into its value.
  have hbuilt : ∀ node ∈ built.literals, node.children? = some [] := by
    intro node hnode
    obtain ⟨hmem, hliteral⟩ := Node.mem_literals.mp hnode
    exact (isBuilt_treeOfEvents source events node hmem).2 hliteral
  have hsame : tree.literals = built.literals := literals_passes hbuilt delimiters
  refine ⟨?_, ?_, hsame⟩
  · intro node hmem hliteral
    exact hbuilt node (Node.mem_literals.mpr ⟨hmem, hliteral⟩)
  · intro node hmem hliteral
    -- It was a literal of the built tree, where it had no children.
    apply hbuilt
    rw [← hsame]
    exact Node.mem_literals.mpr ⟨hmem, hliteral⟩

end Highlighter
