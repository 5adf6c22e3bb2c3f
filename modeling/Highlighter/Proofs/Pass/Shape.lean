import Highlighter.Proofs.Builder.Shape
import Highlighter.Proofs.Pass.Sequence

/-!
# The shape of a highlighted tree

What a source is read as is in shape, and highlight passes keep it so. Main statement: after any events, and any passes
behind them, the tree is a root over the whole source, no two of its texts are neighbours, and all its nodes
are positioned apart from those below a highlight.

A pass puts nodes in the place of a text. They are apart from each other, and what stands next to the text was no text,
before the pass and behind it. They carry the position of the text, so they are placed if the text was.
-/

namespace Highlighter

namespace Delimiter

variable (delimiter : Delimiter)

/-! ## One pass -/

theorem forestApart_split (text : String) (position : Option Position) :
    Node.ForestApart (delimiter.split text position) := by
  refine ⟨delimiter.isChain_split text position, ?_⟩
  intro node hnode children hchildren
  rcases delimiter.mem_forestNodes_split text position hnode with hsplit | ⟨value, rfl, -⟩
  · cases node with
    | text value own => cases hchildren
    | highlight value own ownPosition =>
      obtain ⟨-, -, rfl, -⟩ := delimiter.highlight_of_mem_split text position hsplit
      obtain rfl := Option.some.inj hchildren
      exact List.isChain_singleton _
    | element kind value attributes own ownPosition =>
      -- No cut makes an element.
      obtain ⟨hkind, -⟩ := delimiter.carried_of_mem_split text position hsplit
      simp [Node.isText, Node.isHighlight] at hkind
  · cases hchildren

theorem placed_split {text : String} {position : Option Position} (h : position.isSome = true) :
    Node.Placed (delimiter.split text position) := by
  -- Neither a text nor a highlight has a node below it that counts, so the nodes of the cut are all there are.
  have hcut : ∀ nodes : List Node, (∀ node ∈ nodes, node.isText = true ∨ node.isHighlight = true) →
      Node.forestExposed nodes = nodes := by
    intro nodes hkinds
    induction nodes with
    | nil => rfl
    | cons node nodes ih =>
      obtain ⟨hkind, hothers⟩ := List.forall_mem_cons.mp hkinds
      cases node with
      | text value own =>
        rw [Node.forestExposed, ih hothers]
        rfl
      | highlight value children own =>
        rw [Node.forestExposed, ih hothers]
        rfl
      | element kind value attributes children own => simp [Node.isText, Node.isHighlight] at hkind
  intro node hnode
  rw [hcut _ fun node hmem => (delimiter.carried_of_mem_split text position hmem).1] at hnode
  rw [(delimiter.carried_of_mem_split text position hnode).2]
  exact h

/-- Siblings that start with no text start with none behind a pass. -/
theorem isText_head?_splitAmong {nodes : List Node} (h : ∀ node ∈ nodes.head?, node.isText = false) :
    ∀ node ∈ (delimiter.splitAmong nodes).head?, node.isText = false := by
  cases nodes with
  | nil => simp
  | cons first nodes =>
    have hfirst : first.isText = false := h first rfl
    cases hchildren : first.children? with
    | none =>
      -- The first node would be a text.
      rw [(first.children?_eq_none_iff).mp hchildren] at hfirst
      cases hfirst
    | some children =>
      -- A node that is no text stays a node of its kind.
      have hnew := first.children?_withChildren (delimiter.splitAmong children) hfirst
      rw [delimiter.splitAmong_of_children? hchildren]
      intro node hnode
      obtain rfl := Option.some.inj hnode
      exact Node.isText_of_children? hnew

theorem forestApart_splitAmong {nodes : List Node} (h : Node.ForestApart nodes) :
    Node.ForestApart (delimiter.splitAmong nodes) := by
  induction nodes using Node.forestInduction with
  | nil => exact h
  | text value position nodes ih =>
    obtain ⟨-, hnodes, hnext⟩ := Node.forestApart_cons.mp h
    have hhead : ∀ node ∈ nodes.head?, node.isText = false := by simpa [Node.isText] using hnext
    -- The nodes of the cut are apart, and what follows them begins with no text, before the pass and behind it.
    rw [splitAmong_text, Node.forestApart_append]
    refine ⟨delimiter.forestApart_split value position, ih hnodes, ?_⟩
    intro last _ next hmem
    simp [delimiter.isText_head?_splitAmong hhead next hmem]
  | parent node children nodes hchildren ihchildren ihnodes =>
    obtain ⟨hnode, hnodes, -⟩ := Node.forestApart_cons.mp h
    have hnew := node.children?_withChildren (delimiter.splitAmong children)
      (Node.isText_of_children? hchildren)
    have hinner := ihchildren ((Node.forestApart_of_children? hchildren).mp hnode)
    rw [delimiter.splitAmong_of_children? hchildren, Node.forestApart_cons, Node.forestApart_of_children? hnew]
    -- Between a node that is no text and the next one there is nothing to show.
    refine ⟨hinner, ihnodes hnodes, ?_⟩
    simp [Node.isText_of_children? hnew]

theorem placed_splitAmong {nodes : List Node} (h : Node.Placed nodes) :
    Node.Placed (delimiter.splitAmong nodes) := by
  induction nodes using Node.forestInduction with
  | nil => exact h
  | text value position nodes ih =>
    obtain ⟨htext, hnodes⟩ := Node.placed_cons.mp h
    rw [splitAmong_text, Node.placed_append]
    exact ⟨delimiter.placed_split (Node.placed_text.mp htext), ih hnodes⟩
  | parent node children nodes hchildren ihchildren ihnodes =>
    obtain ⟨hnode, hnodes⟩ := Node.placed_cons.mp h
    rw [delimiter.splitAmong_of_children? hchildren, Node.placed_cons]
    refine ⟨?_, ihnodes hnodes⟩
    cases node with
    | text value position => cases hchildren
    | highlight value own position =>
      -- Below a highlight nothing counts.
      exact Node.placed_highlight.mpr (Node.placed_highlight.mp hnode)
    | element kind value attributes own position =>
      obtain rfl : own = children := by simpa [Node.children?] using hchildren
      obtain ⟨hposition, hinner⟩ := Node.placed_element.mp hnode
      exact Node.placed_element.mpr ⟨hposition, ihchildren hinner⟩

end Delimiter

/-! ## Sequences of passes -/

/-- Passes keep a root with its attributes and position, texts that are apart, and nodes that are placed. -/
theorem inShape_passes (delimiters : List Delimiter) {kind : String} {attributes : Attributes}
    {children : List Node} {position : Option Position}
    (hapart : Node.ForestApart [.element kind none attributes children position])
    (hplaced : Node.Placed [.element kind none attributes children position]) :
    ∃ others, passes delimiters (.element kind none attributes children position) =
        .element kind none attributes others position ∧
      Node.ForestApart [.element kind none attributes others position] ∧
      Node.Placed [.element kind none attributes others position] := by
  induction delimiters generalizing children with
  | nil => exact ⟨children, rfl, hapart, hplaced⟩
  | cons delimiter delimiters ih =>
    -- A pass leaves the root as it is but for its children.
    have hroot : delimiter.splitBelow (.element kind none attributes children position) =
        .element kind none attributes (delimiter.splitAmong children) position :=
      delimiter.splitBelow_of_children? rfl
    have hapart := delimiter.forestApart_splitAmong hapart
    have hplaced := delimiter.placed_splitAmong hplaced
    rw [delimiter.splitAmong_singleton rfl, hroot] at hapart hplaced
    rw [passes_cons, hroot]
    exact ih hapart hplaced

/-- **A highlighted tree is in shape.** Events, balanced or not, never find the stack of open containers empty, and leave
a root over the whole source. Behind any passes it is still that root, no two texts are neighbours, and each node
that is not below a highlight is positioned. -/
theorem shape_passes_treeOfEvents (source : String) (events : List (Event × ByteRange))
    (delimiters : List Delimiter) :
    let index := LineIndex.ofSource source
    let built := (treeOfEvents source events).value
    let tree := passes delimiters built
    (∃ stack, events.foldlM (OpenElement.feed? index) (Builder.start index).stack = some stack ∧
        stack ≠ [] ∧ OpenElement.finish? stack = some built) ∧
      (∃ children, tree =
        .element "root" none .empty children (some (index.position 0 (byteLength source.toList)))) ∧
      (∀ node ∈ tree :: tree.descendants, ∀ children, node.children? = some children →
        Node.TextsApart children) ∧
      ∀ node ∈ tree :: tree.exposed, node.position?.isSome = true := by
  intro index built tree
  -- Each pass keeps the root and the shape, so both are carried from the built tree to the last one.
  obtain ⟨⟨children, hbuilt⟩, hapart, hplaced⟩ := inShape_treeOfEvents source events
  rw [hbuilt] at hapart hplaced
  obtain ⟨others, htree, hapart, hplaced⟩ := inShape_passes delimiters hapart hplaced
  rw [← hbuilt] at htree
  rw [← htree] at hapart hplaced
  refine ⟨exists_stack_of_treeOfEvents source events, ⟨others, htree⟩, ?_, ?_⟩
  · intro node hnode
    apply hapart.2
    simpa using hnode
  · intro node hnode
    apply hplaced
    simpa [Node.forestExposed] using hnode

end Highlighter
