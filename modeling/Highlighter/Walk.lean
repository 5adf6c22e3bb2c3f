import Highlighter.Document.Node
import Highlighter.Log

/-!
# Walking over the texts of a tree

The walk goes depth first and from left to right, and calls a visitor for each text that has a parent. The
visitor is given the siblings and the index of the text among them; it answers with new siblings, and with
the index from which the walk goes on among these.

A visitor may send the walk back to where it was, so a walk need not end. It is therefore given a budget,
which bounds the length of any chain of steps, and gives nothing if the budget runs out.
-/

namespace Highlighter

/-- Where a walk goes on after a visit. -/
inductive Resume where
  /-- At the sibling after the visited index. -/
  | next
  /-- At the given index. -/
  | skipTo (index : Nat)
deriving DecidableEq, Repr

namespace Resume

/-- The index at which a walk goes on after a visit at an index. -/
def index (visited : Nat) : Resume → Nat
  | next => visited + 1
  | skipTo index => index

end Resume

/-- What a visitor answers. -/
structure Visit (σ : Type) where
  state : σ
  siblings : List Node
  resume : Resume

/-- A visitor with a state: it is called with the siblings and the index of a text among them. -/
abbrev Visitor (σ : Type) := σ → List Node → Nat → Visit σ

namespace Walk

/-- Walks over the siblings from an index on. -/
def siblings {σ : Type} (visitor : Visitor σ) :
    Nat → σ → List Node → Nat → Option (σ × List Node)
  | 0, _, _, _ => none
  | budget + 1, state, nodes, index =>
    match nodes[index]? with
    | none => some (state, nodes)
    | some node =>
      match node.children? with
      | none =>
        let visit := visitor state nodes index
        siblings visitor budget visit.state visit.siblings (visit.resume.index index)
      | some children =>
        match siblings visitor budget state children 0 with
        | none => none
        | some (state, children) =>
          siblings visitor budget state (nodes.set index (node.withChildren children)) (index + 1)

/-- Walks over the texts below the root of a tree. A root that is itself a text has no parent, and is
left alone. -/
def texts {σ : Type} (visitor : Visitor σ) (budget : Nat) (state : σ) (tree : Node) :
    Option (Logged (σ × Node)) :=
  match tree.children? with
  | none => some ⟨(state, tree), [.childlessRoot]⟩
  | some children =>
    (siblings visitor budget state children 0).map fun (state, children) =>
      .silent (state, tree.withChildren children)

end Walk

/-- Puts nodes in the place of the child at an index, and tells how many. There is nothing to replace at
an index past the end. -/
def replaceChild (siblings : List Node) (index : Nat) (nodes : List Node) : Logged (Nat × List Node) :=
  if index < siblings.length then
    .silent (nodes.length, siblings.take index ++ nodes ++ siblings.drop (index + 1))
  else ⟨(0, siblings), [.indexOutOfRange index siblings.length]⟩

end Highlighter
