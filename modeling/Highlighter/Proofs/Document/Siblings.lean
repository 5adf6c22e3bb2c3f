import Highlighter.Proofs.Document.Descendants
import Mathlib.Data.List.Chain

/-!
# Neighbouring texts and positions

Two conditions on trees that hold of what is read from a source and of what is left of it behind highlight passes. No two
texts are neighbours, among siblings and anywhere below them. And each node is positioned, apart from those below a
highlight: the text that repeats the value of a highlight has no place of its own in the source.

Both are about lists of siblings, and both hold of siblings that are put together if they hold of the parts, where the
first also needs that no two texts meet.
-/

namespace Highlighter

namespace Node

/-! ## Neighbouring texts -/

/-- No two texts are neighbours among siblings. -/
def TextsApart (nodes : List Node) : Prop := nodes.IsChain fun a b => ¬(a.isText = true ∧ b.isText = true)

/-- No two texts are neighbours among siblings or among the children of a node below them. -/
def ForestApart (nodes : List Node) : Prop :=
  TextsApart nodes ∧
    ∀ node ∈ forestNodes nodes, ∀ children, node.children? = some children → TextsApart children

theorem forestApart_append {xs ys : List Node} :
    ForestApart (xs ++ ys) ↔
      ForestApart xs ∧ ForestApart ys ∧
        ∀ x ∈ xs.getLast?, ∀ y ∈ ys.head?, ¬(x.isText = true ∧ y.isText = true) := by
  simp only [ForestApart, TextsApart, List.isChain_append, forestNodes_append, List.forall_mem_append]
  tauto

theorem forestApart_cons {node : Node} {nodes : List Node} :
    ForestApart (node :: nodes) ↔
      ForestApart [node] ∧ ForestApart nodes ∧
        ∀ next ∈ nodes.head?, ¬(node.isText = true ∧ next.isText = true) := by
  rw [← List.singleton_append, forestApart_append]
  simp

theorem forestApart_text (value : String) (position : Option Position) :
    ForestApart [.text value position] := by
  simp [ForestApart, TextsApart, children?]

/-- A node by itself is as its children are. -/
theorem forestApart_of_children? {node : Node} {children : List Node} (h : node.children? = some children) :
    ForestApart [node] ↔ ForestApart children := by
  simp only [ForestApart, TextsApart, List.isChain_singleton, true_and, forestNodes_cons,
    descendants_of_children? h, forestNodes_nil, List.append_nil, List.forall_mem_cons, h,
    Option.some.injEq, forall_eq']

/-! ## Positions outside highlights -/

mutual

/-- The nodes below a node that are below no highlight, in document order. -/
def exposed : Node → List Node
  | .text .. => []
  | .highlight .. => []
  | .element _ _ _ children _ => forestExposed children

/-- The nodes of neighbouring trees that are below no highlight, in document order. -/
def forestExposed : List Node → List Node
  | [] => []
  | node :: nodes => node :: exposed node ++ forestExposed nodes

end

theorem forestExposed_append (xs ys : List Node) :
    forestExposed (xs ++ ys) = forestExposed xs ++ forestExposed ys := by
  induction xs with
  | nil => simp [forestExposed]
  | cons x xs ih => simp [forestExposed, ih]

/-- The nodes of neighbouring trees are positioned, apart from those below a highlight. -/
def Placed (nodes : List Node) : Prop := ∀ node ∈ forestExposed nodes, node.position?.isSome = true

theorem placed_append {xs ys : List Node} : Placed (xs ++ ys) ↔ Placed xs ∧ Placed ys := by
  simp only [Placed, forestExposed_append, List.forall_mem_append]

theorem placed_cons {node : Node} {nodes : List Node} : Placed (node :: nodes) ↔ Placed [node] ∧ Placed nodes := by
  rw [← List.singleton_append, placed_append]

theorem placed_text {value : String} {position : Option Position} :
    Placed [.text value position] ↔ position.isSome = true := by
  simp [Placed, forestExposed, exposed, position?]

theorem placed_highlight {value : String} {children : List Node} {position : Option Position} :
    Placed [.highlight value children position] ↔ position.isSome = true := by
  simp [Placed, forestExposed, exposed, position?]

theorem placed_element {kind : String} {value : Option String} {attributes : Attributes}
    {children : List Node} {position : Option Position} :
    Placed [.element kind value attributes children position] ↔
      position.isSome = true ∧ Placed children := by
  simp [Placed, forestExposed, exposed, position?]

end Node

end Highlighter
