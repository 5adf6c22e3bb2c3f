import Highlighter.Proofs.Builder.Steps
import Highlighter.Proofs.Splitting

/-!
# Literal elements of a built tree

Code, formulas, raw HTML and images keep what they show in their value or in an attribute. Main statement: in the tree
of any events, balanced or not, these elements have no children, and there are no highlights.

The containers among them are literal, and a literal container never gets a child: the parts that are added to it
end up in its buffer, whether they are fragments, leaves, or containers that were closed inside it.
-/

namespace Highlighter

namespace Node

/-- The kinds of the elements that keep what they show out of their children. -/
def literalKinds : List String := ["code", "inlineCode", "html", "image", "inlineMath", "math"]

/-- Whether a node is an element of a literal kind. -/
def isLiteral : Node → Bool
  | .element kind .. => literalKinds.contains kind
  | _ => false

/-- No node of the tree is a highlight, and those of a literal kind have no children. -/
def IsBuilt (tree : Node) : Prop :=
  ∀ node ∈ tree :: tree.descendants,
    node.isHighlight = false ∧ (node.isLiteral = true → node.children? = some [])

theorem isBuilt_text (value : String) (position : Option Position) : IsBuilt (.text value position) := by
  intro node hnode
  obtain rfl : node = .text value position := by simpa using hnode
  exact ⟨rfl, by simp [isLiteral]⟩

theorem isBuilt_element {kind : String} {value : Option String} {attributes : Attributes}
    {children : List Node} {position : Option Position} (hkind : kind ∈ literalKinds → children = [])
    (hchildren : ∀ child ∈ children, child.IsBuilt) :
    IsBuilt (.element kind value attributes children position) := by
  intro node hnode
  rcases List.mem_cons.mp hnode with rfl | hbelow
  · -- The element itself: that it is childless is only asked of the literal kinds.
    refine ⟨rfl, fun hliteral => ?_⟩
    have hmem : kind ∈ literalKinds := by simpa [isLiteral] using hliteral
    rw [children?, hkind hmem]
  · -- What is below the element is one of its children, or below one.
    rw [descendants_element] at hbelow
    obtain ⟨child, hchild, hin⟩ := mem_forestNodes.mp hbelow
    apply hchildren child hchild
    exact List.mem_cons.mpr hin

end Node

/-! ## Open containers -/

namespace OpenElement

/-- A container that will be closed as a built tree. -/
structure IsBuilt (element : OpenElement) : Prop where
  literal : element.kind ∈ Node.literalKinds → element.literal ≠ .children
  childless : element.literal ≠ .children → element.reversed = []
  children : ∀ child ∈ element.reversed, child.IsBuilt

end OpenElement

namespace Part

/-- A part that is a node is a built tree. -/
def IsBuilt : Part → Prop
  | .fragment _ _ => True
  | .node child _ => child.IsBuilt

theorem isBuilt_of_mem_onto {part : Part} (h : part.IsBuilt) {children : List Node}
    (hchildren : ∀ child ∈ children, child.IsBuilt) : ∀ child ∈ part.onto children, child.IsBuilt := by
  cases part with
  | node child proper => exact List.forall_mem_cons.mpr ⟨h, hchildren⟩
  | fragment value position =>
    -- A fragment is put together with the text in front of it, or becomes a text.
    rcases fragment_onto_cases value position children with
      ⟨before, own, earlier, rfl, honto⟩ | ⟨-, honto⟩
    · obtain ⟨-, hearlier⟩ := List.forall_mem_cons.mp hchildren
      rw [honto]
      exact List.forall_mem_cons.mpr ⟨Node.isBuilt_text _ _, hearlier⟩
    · rw [honto]
      exact List.forall_mem_cons.mpr ⟨Node.isBuilt_text _ _, hchildren⟩

end Part

namespace OpenElement

theorem isBuilt_ofTag (tag : Tag) (position : Position) : (ofTag tag position).IsBuilt := by
  refine ⟨?_, fun _ => rfl, by simp [ofTag]⟩
  -- The kinds of the containers that have children are none of the literal kinds.
  cases tag <;> simp [ofTag, Tag.kind, Tag.literal, Node.literalKinds]

theorem IsBuilt.addPart {element : OpenElement} (h : element.IsBuilt) {part : Part} (hpart : part.IsBuilt) :
    (element.addPart part).IsBuilt := by
  -- A literal container takes the part into its buffer, and keeps the children it has, which are none.
  by_cases hliteral : element.literal = .children
  · rw [addPart_of_children hliteral]
    refine ⟨h.literal, ?_, Part.isBuilt_of_mem_onto hpart h.children⟩
    intro hnot
    exact absurd hliteral hnot
  · rw [addPart_of_literal hliteral]
    exact ⟨h.literal, h.childless, h.children⟩

theorem IsBuilt.close {element : OpenElement} (h : element.IsBuilt) : element.close.IsBuilt := by
  obtain ⟨value, attributes, hclose⟩ := element.close_eq
  rw [hclose]
  apply Node.isBuilt_element
  · intro hkind
    rw [h.childless (h.literal hkind), List.reverse_nil]
  · intro child hchild
    exact h.children child (List.mem_reverse.mp hchild)

end OpenElement

theorem Event.isBuilt_of_part? {position : Position} {event : Event} {part : Part}
    (h : event.part? position = some part) : part.IsBuilt := by
  have hleaf : ∀ kind value attributes, (Part.leaf kind value attributes position).IsBuilt := by
    intro kind value attributes
    exact Node.isBuilt_element (fun _ => rfl) (by simp)
  -- Apart from texts, what an event adds is a leaf.
  cases event <;> simp only [part?, Option.some.injEq, reduceCtorEq] at h <;> subst h
  case text value => trivial
  case softBreak => trivial
  all_goals exact hleaf _ _ _

theorem isBuilt_invariant : Invariant (fun _ => True) OpenElement.IsBuilt Part.IsBuilt where
  opened tag position _ := OpenElement.isBuilt_ofTag tag position
  checked _ _ h := ⟨h.literal, h.childless, h.children⟩
  added _ _ h hpart := h.addPart hpart
  closed _ h := h.close
  given _ _ _ h := Event.isBuilt_of_part? h

/-- The tree of any events has no highlights, and its elements of literal kinds have no children. -/
theorem isBuilt_treeOfEvents (source : String) (events : List (Event × ByteRange)) :
    (treeOfEvents source events).value.IsBuilt := by
  have hstart : ∀ element ∈ (Builder.start (LineIndex.ofSource source)).stack, element.IsBuilt := by
    refine List.forall_mem_singleton.mpr ⟨?_, fun _ => rfl, by simp [Builder.start]⟩
    simp [Builder.start, Node.literalKinds]
  obtain ⟨root, hroot, hclose⟩ :=
    isBuilt_invariant.closeAll (isBuilt_invariant.feedAll hstart fun _ _ _ _ => trivial)
  rw [treeOfEvents, Builder.finish, hclose]
  exact hroot.close

end Highlighter
