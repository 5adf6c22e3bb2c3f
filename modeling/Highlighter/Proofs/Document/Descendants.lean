import Highlighter.Document.Node

/-!
# Nodes below a node

The nodes of a tree as one list in document order, what the list holds, and induction over trees: a property
that passes from the children of a node to the node holds of every tree.

The texts and the highlights that a pass can meet or leave behind are found in these lists.
-/

namespace Highlighter

namespace Node

/-! ## Document order -/

mutual

/-- The nodes below a node in document order. Each stands in front of the nodes below it. -/
def descendants : Node → List Node
  | .text .. => []
  | .highlight _ children _ => forestNodes children
  | .element _ _ _ children _ => forestNodes children

/-- The nodes of neighbouring trees in document order. -/
def forestNodes : List Node → List Node
  | [] => []
  | node :: nodes => node :: descendants node ++ forestNodes nodes

end

@[simp] theorem forestNodes_nil : forestNodes [] = [] := rfl

@[simp] theorem forestNodes_cons (node : Node) (nodes : List Node) :
    forestNodes (node :: nodes) = node :: descendants node ++ forestNodes nodes := rfl

@[simp] theorem descendants_text (value : String) (position : Option Position) :
    descendants (.text value position) = [] := rfl

@[simp] theorem descendants_highlight (value : String) (children : List Node)
    (position : Option Position) :
    descendants (.highlight value children position) = forestNodes children := rfl

@[simp] theorem descendants_element (kind : String) (value : Option String)
    (attributes : Attributes) (children : List Node) (position : Option Position) :
    descendants (.element kind value attributes children position) = forestNodes children := rfl

@[simp] theorem forestNodes_append (xs ys : List Node) :
    forestNodes (xs ++ ys) = forestNodes xs ++ forestNodes ys := by
  induction xs with
  | nil => simp
  | cons x xs ih => simp [ih]

/-- A node of neighbouring trees is one of their roots, or is below one. -/
theorem mem_forestNodes {node : Node} {nodes : List Node} :
    node ∈ forestNodes nodes ↔ ∃ root ∈ nodes, node = root ∨ node ∈ root.descendants := by
  induction nodes with
  | nil => simp
  | cons root nodes ih => simp [ih, or_assoc]

/-- A node that has no children is a text. -/
theorem eq_text_of_children? {node : Node} (h : node.children? = none) :
    ∃ value position, node = .text value position := by
  cases node with
  | text value position => exact ⟨value, position, rfl⟩
  | highlight value children position => simp [children?] at h
  | element kind value attributes children position => simp [children?] at h

theorem isText_of_children? {node : Node} {children : List Node} (h : node.children? = some children) :
    node.isText = false := by
  cases node <;> simp_all [children?, isText]

theorem descendants_of_children? {node : Node} {children : List Node}
    (h : node.children? = some children) : node.descendants = forestNodes children := by
  cases node <;> simp_all [children?]

/-- What holds of a node, of all nodes below it and of those of the trees behind it, holds of all their nodes. -/
theorem forall_mem_forestNodes_cons {holds : Node → Prop} {node : Node} {nodes : List Node} :
    (∀ other ∈ forestNodes (node :: nodes), holds other) ↔
      holds node ∧ (∀ other ∈ forestNodes (node.children?.getD []), holds other) ∧
        ∀ other ∈ forestNodes nodes, holds other := by
  have hbelow : node.descendants = forestNodes (node.children?.getD []) := by
    cases node <;> rfl
  rw [forestNodes_cons, hbelow, List.cons_append, List.forall_mem_cons, List.forall_mem_append]

theorem forall_mem_forestNodes_of_children? {holds : Node → Prop} {node : Node} {children nodes : List Node}
    (h : node.children? = some children) :
    (∀ other ∈ forestNodes (node :: nodes), holds other) ↔
      holds node ∧ (∀ other ∈ forestNodes children, holds other) ∧ ∀ other ∈ forestNodes nodes, holds other := by
  rw [forall_mem_forestNodes_cons, h, Option.getD_some]

/-- A node keeps its children only if it is given the same ones. -/
theorem withChildren_eq_self_iff {node : Node} {children others : List Node}
    (h : node.children? = some children) : node.withChildren others = node ↔ others = children := by
  cases node <;> simp_all [children?, withChildren]

/-! ## Induction over trees -/

/-- What passes from the children of a node and the siblings after it to the siblings that start with the node, and
from siblings to the siblings with a text in front, holds of all siblings. -/
theorem forestInduction {motive : List Node → Prop} (nodes : List Node) (nil : motive [])
    (text : ∀ value position nodes, motive nodes → motive (.text value position :: nodes))
    (parent : ∀ node children nodes, node.children? = some children → motive children →
      motive nodes → motive (node :: nodes)) :
    motive nodes := by
  -- Two kinds of nodes have children, and the recursion goes into both in the same way.
  match nodes with
  | [] => exact nil
  | .text value position :: nodes =>
    exact text value position nodes (forestInduction nodes nil text parent)
  | .highlight value children position :: nodes =>
    exact parent _ children nodes rfl (forestInduction children nil text parent)
      (forestInduction nodes nil text parent)
  | .element kind value attributes children position :: nodes =>
    exact parent _ children nodes rfl (forestInduction children nil text parent)
      (forestInduction nodes nil text parent)

/-- What passes from the nodes right below a node and the siblings after it to the siblings that start with the node holds
of all siblings. -/
theorem siblingInduction {motive : List Node → Prop} (nodes : List Node) (nil : motive [])
    (cons : ∀ node nodes, motive (node.children?.getD []) → motive nodes → motive (node :: nodes)) : motive nodes := by
  induction nodes using forestInduction with
  | nil => exact nil
  | text value position nodes ih => exact cons (.text value position) nodes nil ih
  | parent node children nodes hchildren ihchildren ihnodes =>
    apply cons node nodes _ ihnodes
    rwa [hchildren]

/-! ## Texts and highlights below a node -/

/-- The value of a text. -/
def textValue? : Node → Option String
  | .text value _ => some value
  | _ => none

/-- The value of a highlight. -/
def highlightValue? : Node → Option String
  | .highlight value _ _ => some value
  | _ => none

/-- The values of the texts below a node in document order. -/
def innerTexts (tree : Node) : List String := tree.descendants.filterMap textValue?

/-- The values of the texts among siblings and below them in document order. -/
def forestTexts (nodes : List Node) : List String := (forestNodes nodes).filterMap textValue?

/-- The values of the highlights among siblings and below them in document order. -/
def forestHighlights (nodes : List Node) : List String := (forestNodes nodes).filterMap highlightValue?

/-- The values of the highlights of a tree in document order. -/
def highlightValues (tree : Node) : List String := forestHighlights [tree]

@[simp] theorem forestTexts_nil : forestTexts [] = [] := rfl

@[simp] theorem forestTexts_text (value : String) (position : Option Position) (nodes : List Node) :
    forestTexts (.text value position :: nodes) = value :: forestTexts nodes := rfl

@[simp] theorem forestTexts_append (xs ys : List Node) :
    forestTexts (xs ++ ys) = forestTexts xs ++ forestTexts ys := by
  simp [forestTexts]

theorem forestTexts_of_children? {node : Node} {children nodes : List Node}
    (h : node.children? = some children) :
    forestTexts (node :: nodes) = forestTexts children ++ forestTexts nodes := by
  have hnone : node.textValue? = none := by cases node <;> simp_all [children?, textValue?]
  rw [forestTexts, forestNodes_cons, descendants_of_children? h, List.filterMap_append,
    List.filterMap_cons_none hnone, forestTexts, forestTexts]

theorem forestHighlights_of_children? {node : Node} {children nodes : List Node}
    (h : node.children? = some children) :
    forestHighlights (node :: nodes) =
      node.highlightValue?.toList ++ (forestHighlights children ++ forestHighlights nodes) := by
  simp only [forestHighlights, forestNodes_cons, descendants_of_children? h, List.cons_append,
    List.filterMap_cons, List.filterMap_append]
  cases node.highlightValue? <;> rfl

theorem innerTexts_of_children? {tree : Node} {children : List Node}
    (h : tree.children? = some children) : tree.innerTexts = forestTexts children := by
  rw [innerTexts, descendants_of_children? h, forestTexts]

end Node

end Highlighter
