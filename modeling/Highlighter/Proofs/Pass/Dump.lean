import Highlighter.Proofs.Builder.Names
import Highlighter.Proofs.Json.Reading
import Highlighter.Proofs.Pass.Sequence

/-!
# The tree dump loses nothing

Main statement: what is built from events and highlighted is dumped with no field twice, and trees with the same dump are
equal, be it the compact dump or the indented one.

The text of a dump tells its JSON value, and the value tells the tree if each node is dumped under names of its own. The
builder gives such names, and passes give none: they put in texts and highlights only.
-/

namespace Highlighter

namespace Delimiter

variable (delimiter : Delimiter)

theorem namedApart_splitAmong {nodes : List Node} (h : ∀ node ∈ Node.forestNodes nodes, node.NamedApart) :
    ∀ node ∈ Node.forestNodes (delimiter.splitAmong nodes), node.NamedApart := by
  induction nodes using Node.forestInduction with
  | nil => simp
  | text value position nodes ih =>
    rw [splitAmong_text, Node.forestNodes_append, List.forall_mem_append]
    refine ⟨fun node hnode => ?_, ih (List.forall_mem_cons.mp h).2⟩
    rcases delimiter.mem_forestNodes_split value position hnode with hsplit | ⟨content, rfl, -⟩
    · -- Only the names of elements matter, and no cut makes one.
      obtain ⟨hkind, -⟩ := delimiter.carried_of_mem_split value position hsplit
      cases node <;> simp_all [Node.isText, Node.isHighlight, Node.NamedApart]
    · trivial
  | parent node children nodes hchildren ihchildren ihnodes =>
    -- A node keeps its attributes, so only what is below it has to be looked at.
    have hnew := node.children?_withChildren (delimiter.splitAmong children) (Node.isText_of_children? hchildren)
    have hsame : (node.withChildren (delimiter.splitAmong children)).NamedApart ↔ node.NamedApart := by
      cases node <;> rfl
    obtain ⟨hnode, hbelow, hnodes⟩ := (Node.forall_mem_forestNodes_of_children? hchildren).mp h
    rw [delimiter.splitAmong_of_children? hchildren, Node.forall_mem_forestNodes_of_children? hnew, hsame]
    exact ⟨hnode, ihchildren hbelow, ihnodes hnodes⟩

theorem allNamedApart_splitBelow {tree : Node} (h : tree.AllNamedApart) : (delimiter.splitBelow tree).AllNamedApart := by
  cases hchildren : tree.children? with
  | none =>
    obtain ⟨value, position, rfl⟩ := Node.eq_text_of_children? hchildren
    rw [splitBelow]
    exact h
  | some children =>
    have hforest := delimiter.namedApart_splitAmong (Node.allNamedApart_iff.mp h)
    rw [delimiter.splitAmong_singleton (Node.isText_of_children? hchildren)] at hforest
    exact Node.allNamedApart_iff.mpr hforest

end Delimiter

theorem allNamedApart_passes {tree : Node} (h : tree.AllNamedApart) (delimiters : List Delimiter) :
    (passes delimiters tree).AllNamedApart := by
  induction delimiters generalizing tree with
  | nil => exact h
  | cons delimiter delimiters ih =>
    rw [passes_cons]
    exact ih (delimiter.allNamedApart_splitBelow h)

namespace Node

/-- Trees with names of their own are equal if their compact dumps are, or their indented ones. -/
theorem dump_eq_iff {a b : Node} (ha : a.AllNamedApart) (hb : b.AllNamedApart) :
    (a.dump = b.dump ↔ a = b) ∧ (a.dumpIndented = b.dumpIndented ↔ a = b) := by
  refine ⟨⟨fun h => ?_, congrArg dump⟩, ⟨fun h => ?_, congrArg dumpIndented⟩⟩
  · exact toJson_inj (Json.compact_inj h) ha hb
  · exact toJson_inj (Json.pretty_inj h) ha hb

/-- **The dump loses nothing.** Each node of a tree that was built from events and highlighted is dumped under names of
its own: no element is called a text or a highlight, and no attribute is called like another field. If that is so, no
object of the dump has two fields of one name, and trees with one compact dump, or with one indented dump, are one. -/
theorem dump_faithful :
    (∀ source events delimiters, (passes delimiters (treeOfEvents source events).value).AllNamedApart) ∧
      (∀ tree : Node, tree.AllNamedApart → tree.toJson.KeysDistinct) ∧
      ∀ a b : Node, a.AllNamedApart → b.AllNamedApart →
        (a.dump = b.dump ↔ a = b) ∧ (a.dumpIndented = b.dumpIndented ↔ a = b) := by
  refine ⟨?_, fun tree h => h.keysDistinct, fun a b ha hb => dump_eq_iff ha hb⟩
  intro source events delimiters
  exact allNamedApart_passes (allNamedApart_treeOfEvents source events) delimiters

/-- A paragraph with an attribute, a value and a highlight, which has two children. -/
def markedParagraph : Node :=
  .element "paragraph" (some "a\nb") (Attributes.empty.insert "start" (.number 3))
    [.highlight "a" [.text "a" none, .text "\"" none] none] none

/-- An absent value and an empty one are told apart, and so are children of a highlight from none. -/
theorem dump_faithful_markedParagraph :
    markedParagraph.AllNamedApart ∧ markedParagraph.toJson.KeysDistinct ∧
      (markedParagraph.dump = (bare "paragraph" none).dump ↔ markedParagraph = bare "paragraph" none) ∧
      (markedParagraph.dumpIndented = (bare "paragraph" none).dumpIndented ↔
        markedParagraph = bare "paragraph" none) := by
  obtain ⟨-, hkeys, hdumps⟩ := dump_faithful
  have hmarked : markedParagraph.AllNamedApart := by
    simp [markedParagraph, AllNamedApart, NamedApart, AttributesApart, Attributes.insert, Attributes.empty, putSorted,
      fieldNames]
  have hbare : (bare "paragraph" none).AllNamedApart := by
    simp [bare, AllNamedApart, NamedApart, AttributesApart, Attributes.empty]
  exact ⟨hmarked, hkeys _ hmarked, hdumps _ _ hmarked hbare⟩

end Node

end Highlighter
