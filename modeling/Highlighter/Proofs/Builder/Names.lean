import Highlighter.Proofs.Builder.Steps
import Highlighter.Proofs.Document.Fields

/-!
# Names in a built tree

The kinds and the attributes of the elements that the builder makes. Main statement: in the tree of any events, no
element is called a text or a highlight, and no attribute has the name of another field of its node.

Kinds and attributes come from tags and leaf events. What the builder adds to them is the mark of a task and the
alternative text of an image.
-/

namespace Highlighter

namespace Node

theorem attributesApart_empty : AttributesApart .empty := by
  simp [AttributesApart, Attributes.empty]

theorem AttributesApart.insert {attributes : Attributes} (h : AttributesApart attributes) (name : String)
    (hname : name ∉ fieldNames) (value : Attribute) : AttributesApart (attributes.insert name value) := by
  intro entry hentry
  rcases mem_putSorted hentry with rfl | hold
  · exact hname
  · exact h entry hold

/-- A node is named apart at any depth if it is itself and its children are at any depth. -/
theorem allNamedApart_element {kind : String} {value : Option String} {attributes : Attributes}
    {children : List Node} {position : Option Position} (hkind : kind ∉ ["text", "highlight"])
    (hattributes : AttributesApart attributes) (hchildren : ∀ child ∈ children, child.AllNamedApart) :
    AllNamedApart (.element kind value attributes children position) := by
  rw [AllNamedApart, List.forall_mem_cons, descendants_element]
  refine ⟨⟨hkind, hattributes⟩, fun node hnode => ?_⟩
  obtain ⟨child, hchild, hin⟩ := mem_forestNodes.mp hnode
  exact hchildren child hchild node (List.mem_cons.mpr hin)

theorem allNamedApart_text (value : String) (position : Option Position) :
    AllNamedApart (.text value position) := by
  simp [AllNamedApart, NamedApart]

end Node

/-! ## Tags -/

namespace Tag

theorem kind_not_mem (tag : Tag) : tag.kind ∉ ["text", "highlight"] := by
  cases tag <;> simp [kind]

theorem attributesApart_attributes (tag : Tag) : Node.AttributesApart tag.attributes := by
  have hempty := Node.attributesApart_empty
  cases tag with
  -- One case for each tag with attributes. Each of them inserts its names one after another, and none twice.
  | heading depth => exact hempty.insert _ (by decide) _
  | codeBlock info =>
    cases info with
    | none => exact hempty
    | some info =>
      -- The language and the rest of the info string may each be missing.
      simp only [attributes, infoAttributes]
      have hlang : ∀ word : List Char, Node.AttributesApart (if word.isEmpty then Attributes.empty
          else Attributes.empty.insert "lang" (.text (String.ofList word))) := by
        intro word
        split
        · exact hempty
        · exact hempty.insert _ (by decide) _
      split
      · exact hlang _
      · exact (hlang _).insert _ (by decide) _
  | list start =>
    have hordered := hempty.insert "ordered" (by decide) (.flag start.isSome)
    cases start with
    | none => exact hordered
    | some start => exact hordered.insert _ (by decide) _
  | link url title | image url title =>
    have hurl := hempty.insert "url" (by decide) (.text url)
    simp only [attributes, linkAttributes]
    split
    · exact hurl
    · exact hurl.insert _ (by decide) _
  | tableHead => exact hempty.insert _ (by decide) _
  | footnoteDefinition label => exact hempty.insert _ (by decide) _
  | paragraph | quote | htmlBlock | item | emphasis | strong | strikethrough | table | tableRow | tableCell | other =>
    exact hempty

end Tag

/-! ## Open containers -/

/-- A container that will be closed as an element with names of its own, with such elements inside. -/
structure OpenElement.NamedApart (element : OpenElement) : Prop where
  kind : element.kind ∉ ["text", "highlight"]
  attributes : Node.AttributesApart element.attributes
  children : ∀ child ∈ element.reversed, child.AllNamedApart

/-- A part that is a node has names of its own at any depth. -/
def Part.NamedApart : Part → Prop
  | .fragment _ _ => True
  | .node child _ => child.AllNamedApart

namespace OpenElement

theorem namedApart_ofTag (tag : Tag) (position : Position) : (ofTag tag position).NamedApart :=
  ⟨tag.kind_not_mem, tag.attributesApart_attributes, by simp [ofTag]⟩

theorem NamedApart.addPart {element : OpenElement} (h : element.NamedApart) {part : Part} (hpart : part.NamedApart) :
    (element.addPart part).NamedApart := by
  by_cases hliteral : element.literal = .children
  · rw [addPart_of_children hliteral]
    refine ⟨h.kind, h.attributes, ?_⟩
    cases part with
    | node child proper => exact List.forall_mem_cons.mpr ⟨hpart, h.children⟩
    | fragment value position =>
      -- Among the children a fragment is a text, or the end of one.
      rcases Part.fragment_onto_cases value position element.reversed with
        ⟨before, own, earlier, hreversed, honto⟩ | ⟨-, honto⟩
      · have hchildren := h.children
        rw [hreversed] at hchildren
        rw [honto]
        exact List.forall_mem_cons.mpr ⟨Node.allNamedApart_text _ _, (List.forall_mem_cons.mp hchildren).2⟩
      · rw [honto]
        exact List.forall_mem_cons.mpr ⟨Node.allNamedApart_text _ _, h.children⟩
  · rw [addPart_of_literal hliteral]
    exact ⟨h.kind, h.attributes, h.children⟩

theorem NamedApart.close {element : OpenElement} (h : element.NamedApart) : element.close.AllNamedApart := by
  have hchildren : ∀ child ∈ element.reversed.reverse, child.AllNamedApart := by
    intro child hchild
    exact h.children child (List.mem_reverse.mp hchild)
  unfold OpenElement.close
  cases element.literal with
  | children => exact Node.allNamedApart_element h.kind h.attributes hchildren
  | value => exact Node.allNamedApart_element h.kind h.attributes hchildren
  | alt => exact Node.allNamedApart_element h.kind (h.attributes.insert _ (by decide) _) hchildren

end OpenElement

theorem Event.namedApart_of_part? {position : Position} {event : Event} {part : Part}
    (h : event.part? position = some part) : part.NamedApart := by
  have hleaf : ∀ kind value attributes, kind ∉ ["text", "highlight"] → Node.AttributesApart attributes →
      (Part.leaf kind value attributes position).NamedApart := by
    intro kind value attributes hkind hattributes
    exact Node.allNamedApart_element hkind hattributes (by simp)
  cases event <;> simp only [part?, Option.some.injEq, reduceCtorEq] at h <;> subst h
  case text value => trivial
  case softBreak => trivial
  case footnoteReference label => exact hleaf _ _ _ (by decide) (Node.attributesApart_empty.insert _ (by decide) _)
  all_goals exact hleaf _ _ _ (by decide) Node.attributesApart_empty

theorem namedApart_invariant : Invariant (fun _ => True) OpenElement.NamedApart Part.NamedApart where
  opened tag position _ := OpenElement.namedApart_ofTag tag position
  checked _ _ h := ⟨h.kind, h.attributes.insert _ (by decide) _, h.children⟩
  added _ _ h hpart := h.addPart hpart
  closed _ h := h.close
  given _ _ _ h := Event.namedApart_of_part? h

/-- In the tree of any events, each node is dumped under names of its own. -/
theorem allNamedApart_treeOfEvents (source : String) (events : List (Event × ByteRange)) :
    (treeOfEvents source events).value.AllNamedApart := by
  have hstart : ∀ element ∈ (Builder.start (LineIndex.ofSource source)).stack, element.NamedApart :=
    List.forall_mem_singleton.mpr ⟨by simp [Builder.start], Node.attributesApart_empty, by simp [Builder.start]⟩
  obtain ⟨root, hroot, hclose⟩ :=
    namedApart_invariant.closeAll (namedApart_invariant.feedAll hstart fun _ _ _ _ => trivial)
  rw [treeOfEvents, Builder.finish, hclose]
  exact hroot.close

end Highlighter
