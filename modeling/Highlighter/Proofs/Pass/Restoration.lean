import Highlighter.Proofs.Builder.Literals
import Highlighter.Proofs.Pass.Shape
import Mathlib.Data.List.SplitBy
import Mathlib.Data.Set.Function

/-!
# Undoing a pass

A pass loses nothing of a tree. Main statement: from a tree without highlights and without neighbouring texts a pass
makes a tree from which it can be put together again, so it makes different trees of different ones. The trees of
events are of this kind.

To put a tree together, each maximal run of texts and highlights among siblings is written back as one text, with the
marker pairs around the highlights. A run comes from one text only: what stands next to a text was no text before the
pass, so it was an element, and it is one behind the pass.
-/

namespace Highlighter

namespace Node

/-! ## Runs -/

/-- Whether a node is a text or a highlight, as the pieces are that a text is cut into. -/
def isPiece (node : Node) : Bool := node.isText || node.isHighlight

/-- Siblings in maximal runs of pieces. Any other node stands by itself. -/
def runs (nodes : List Node) : List (List Node) := nodes.splitBy fun a b => a.isPiece && b.isPiece

/-- The position that all of some nodes carry, if they all carry the same. -/
def commonPosition? : List Node → Option Position
  | [] => none
  | first :: nodes => if ∀ node ∈ nodes, node.position? = first.position? then first.position? else none

theorem commonPosition?_eq {nodes : List Node} {position : Option Position} (hne : nodes ≠ [])
    (h : ∀ node ∈ nodes, node.position? = position) : commonPosition? nodes = position := by
  obtain ⟨first, others, rfl⟩ := List.exists_cons_of_ne_nil hne
  obtain ⟨rfl, hothers⟩ := List.forall_mem_cons.mp h
  rw [commonPosition?, if_pos hothers]

/-- An element is what is neither a text nor a highlight. -/
theorem isPiece_eq_false_iff {node : Node} :
    node.isPiece = false ↔ ∃ kind value attributes children position,
      node = .element kind value attributes children position := by
  cases node <;> simp [isPiece, isText, isHighlight]

/-- No node of the tree is a highlight, no two of its texts are neighbours, and its root is no text. -/
structure Unmarked (tree : Node) : Prop where
  root : tree.isText = false
  plain : ∀ node ∈ tree :: tree.descendants, node.isHighlight = false
  apart : ForestApart [tree]

end Node

theorem unmarked_treeOfEvents (source : String) (events : List (Event × ByteRange)) :
    (treeOfEvents source events).value.Unmarked := by
  obtain ⟨⟨children, hroot⟩, hapart, -⟩ := inShape_treeOfEvents source events
  refine ⟨?_, ?_, hapart⟩
  · rw [hroot, Node.isText_element]
  · intro node hnode
    exact (isBuilt_treeOfEvents source events node hnode).1

namespace Delimiter

variable (delimiter : Delimiter)

/-! ## Putting a tree together -/

/-- One text in the place of a run of pieces. -/
def joinRun (run : List Node) : List Node :=
  if run.all (·.isPiece) then
    [.text (String.join (run.map (·.written delimiter))) (Node.commonPosition? run)]
  else run

/-- The siblings with one text in the place of each maximal run of pieces. -/
def joinRuns (nodes : List Node) : List Node := (Node.runs nodes).flatMap delimiter.joinRun

mutual

/-- The tree with the runs of pieces put together in the children of each element. -/
def restore : Node → Node
  | .text value position => .text value position
  | .highlight value children position => .highlight value children position
  | .element kind value attributes children position =>
    .element kind value attributes (delimiter.joinRuns (restoreEach children)) position

/-- The siblings with the runs of pieces put together below each of them, but not among them. -/
def restoreEach : List Node → List Node
  | [] => []
  | node :: nodes => restore node :: restoreEach nodes

end

theorem restoreEach_append (xs ys : List Node) :
    delimiter.restoreEach (xs ++ ys) = delimiter.restoreEach xs ++ delimiter.restoreEach ys := by
  induction xs with
  | nil => simp [restoreEach]
  | cons x xs ih => simp [restoreEach, ih]

/-- There is nothing to put together below pieces. -/
theorem restoreEach_pieces {nodes : List Node} (h : ∀ node ∈ nodes, node.isPiece = true) :
    delimiter.restoreEach nodes = nodes := by
  induction nodes with
  | nil => simp [restoreEach]
  | cons node nodes ih =>
    obtain ⟨hnode, hothers⟩ := List.forall_mem_cons.mp h
    rw [restoreEach, ih hothers]
    cases node with
    | text value position => rw [restore]
    | highlight value children position => rw [restore]
    | element kind value attributes children position =>
      -- A piece is a text or a highlight.
      simp [Node.isPiece, Node.isText, Node.isHighlight] at hnode

theorem joinRuns_nil : delimiter.joinRuns [] = [] := by
  rw [joinRuns, Node.runs, List.splitBy_nil, List.flatMap_nil]

/-- A run ends in front of an element. -/
theorem joinRuns_append {xs ys : List Node} (h : ∀ next ∈ ys.head?, next.isPiece = false) :
    delimiter.joinRuns (xs ++ ys) = delimiter.joinRuns xs ++ delimiter.joinRuns ys := by
  have hmeet : ∀ last ∈ xs.getLast?, ∀ next ∈ ys.head?, (last.isPiece && next.isPiece) = false := by
    intro last _ next hnext
    rw [h next hnext, Bool.and_false]
  rw [joinRuns, Node.runs, List.splitBy_append hmeet, List.flatMap_append]
  rfl

/-- An element is a run by itself. -/
theorem joinRuns_cons {node : Node} (h : node.isPiece = false) (nodes : List Node) :
    delimiter.joinRuns (node :: nodes) = node :: delimiter.joinRuns nodes := by
  have hmeet : ∀ last ∈ [node].getLast?, ∀ next ∈ nodes.head?, (last.isPiece && next.isPiece) = false := by
    intro last hlast next _
    have hself : node = last := Option.some.inj hlast
    rw [← hself, h, Bool.false_and]
  have hself : delimiter.joinRun [node] = [node] := by simp [joinRun, h]
  rw [joinRuns, Node.runs, ← List.singleton_append, List.splitBy_append hmeet, List.flatMap_append]
  calc (Node.runs [node]).flatMap delimiter.joinRun ++ delimiter.joinRuns nodes
      = delimiter.joinRun [node] ++ delimiter.joinRuns nodes := by
        rw [show Node.runs [node] = [[node]] from rfl, List.flatMap_singleton]
    _ = node :: delimiter.joinRuns nodes := by rw [hself, List.singleton_append]

theorem isPiece_of_mem_split (text : String) (position : Option Position) :
    ∀ node ∈ delimiter.split text position, node.isPiece = true := by
  intro node hnode
  rw [Node.isPiece, Bool.or_eq_true]
  exact (delimiter.carried_of_mem_split text position hnode).1

/-- The pieces of a text are put together to the text. -/
theorem joinRuns_split (text : String) (position : Option Position) :
    delimiter.joinRuns (delimiter.split text position) = [.text text position] := by
  have hpieces := delimiter.isPiece_of_mem_split text position
  have hne := delimiter.split_ne_nil text position
  have hruns : Node.runs (delimiter.split text position) = [delimiter.split text position] := by
    apply List.splitBy_of_isChain hne
    -- Any two of the nodes are pieces, neighbours or not.
    refine List.Pairwise.isChain (List.pairwise_of_forall_mem_list fun a ha b hb => ?_)
    rw [hpieces a ha, hpieces b hb]
    rfl
  have hposition : Node.commonPosition? (delimiter.split text position) = position := by
    apply Node.commonPosition?_eq hne
    intro node hnode
    exact (delimiter.carried_of_mem_split text position hnode).2
  rw [joinRuns, hruns, List.flatMap_singleton, joinRun, if_pos (List.all_eq_true.mpr hpieces), hposition,
    delimiter.join_written_split]

/-! ## Putting together what a pass leaves -/

/-- Siblings that start with an element start with one behind a pass. -/
theorem isPiece_head?_splitAmong {nodes : List Node} (h : ∀ node ∈ nodes.head?, node.isPiece = false) :
    ∀ node ∈ (delimiter.restoreEach (delimiter.splitAmong nodes)).head?, node.isPiece = false := by
  cases nodes with
  | nil => simp [restoreEach]
  | cons first nodes =>
    obtain ⟨kind, value, attributes, children, position, rfl⟩ := Node.isPiece_eq_false_iff.mp (h first rfl)
    intro node hnode
    rw [delimiter.splitAmong_of_children? rfl, Node.withChildren, restoreEach, restore] at hnode
    obtain rfl := Option.some.inj hnode
    rfl

theorem joinRuns_restoreEach_splitAmong {nodes : List Node}
    (hplain : ∀ node ∈ Node.forestNodes nodes, node.isHighlight = false) (hapart : Node.ForestApart nodes) :
    delimiter.joinRuns (delimiter.restoreEach (delimiter.splitAmong nodes)) = nodes := by
  induction nodes using Node.forestInduction with
  | nil => rw [splitAmong_nil, restoreEach, joinRuns_nil]
  | text value position nodes ih =>
    obtain ⟨-, hnodes, hnext⟩ := Node.forestApart_cons.mp hapart
    obtain ⟨-, hothers⟩ := List.forall_mem_cons.mp hplain
    -- What stands behind the text is neither a text nor a highlight, so the run of its pieces ends there.
    have hhead : ∀ node ∈ nodes.head?, node.isPiece = false := by
      intro node hnode
      have htext : node.isText = false := by simpa [Node.isText] using hnext node hnode
      have hhighlight : node.isHighlight = false :=
        hothers node (Node.mem_forestNodes.mpr ⟨node, List.mem_of_mem_head? hnode, .inl rfl⟩)
      rw [Node.isPiece, htext, hhighlight]
      rfl
    have hpieces := delimiter.restoreEach_pieces (delimiter.isPiece_of_mem_split value position)
    rw [splitAmong_text, restoreEach_append, hpieces,
      delimiter.joinRuns_append (delimiter.isPiece_head?_splitAmong hhead), delimiter.joinRuns_split,
      ih hothers hnodes, List.singleton_append]
  | parent node children nodes hchildren ihchildren ihnodes =>
    obtain ⟨hnode, hbelow, hothers⟩ := (Node.forall_mem_forestNodes_of_children? hchildren).mp hplain
    obtain ⟨hself, hnodes, -⟩ := Node.forestApart_cons.mp hapart
    have hinner := ihchildren hbelow ((Node.forestApart_of_children? hchildren).mp hself)
    have helement : node.isPiece = false := by
      rw [Node.isPiece, Node.isText_of_children? hchildren, hnode]
      rfl
    -- The pass and the way back both leave the element as it is but for its children.
    obtain ⟨kind, value, attributes, own, position, rfl⟩ := Node.isPiece_eq_false_iff.mp helement
    obtain rfl : own = children := by simpa [Node.children?] using hchildren
    rw [delimiter.splitAmong_of_children? hchildren, Node.withChildren, restoreEach, restore, hinner,
      delimiter.joinRuns_cons helement, ihnodes hothers hnodes]

theorem restore_splitBelow {tree : Node} (h : tree.Unmarked) :
    delimiter.restore (delimiter.splitBelow tree) = tree := by
  have helement : tree.isPiece = false := by
    rw [Node.isPiece, h.root, h.plain tree (List.mem_cons_self ..)]
    rfl
  obtain ⟨kind, value, attributes, children, position, rfl⟩ := Node.isPiece_eq_false_iff.mp helement
  obtain ⟨-, hplain⟩ := List.forall_mem_cons.mp h.plain
  rw [splitBelow, restore, delimiter.joinRuns_restoreEach_splitAmong hplain
    ((Node.forestApart_of_children? rfl).mp h.apart)]

/-- **A pass can be undone.** A tree without highlights and neighbouring texts can be put together again from what a
pass leaves of it, so no two of them come out of a pass alike. The trees of events are such trees. -/
theorem restore_highlight :
    (∀ tree : Node, tree.Unmarked → delimiter.restore (delimiter.highlight tree).value = tree) ∧
      Set.InjOn (fun tree => (delimiter.highlight tree).value) {tree : Node | tree.Unmarked} ∧
      ∀ source events, (treeOfEvents source events).value.Unmarked := by
  have hrestore : ∀ tree : Node, tree.Unmarked →
      delimiter.restore (delimiter.highlight tree).value = tree := by
    intro tree h
    rw [value_highlight]
    exact delimiter.restore_splitBelow h
  refine ⟨hrestore, ?_, unmarked_treeOfEvents⟩
  intro first hfirst second hsecond hsame
  -- What is restored from the one result is both trees.
  calc first = delimiter.restore (delimiter.highlight first).value := (hrestore first hfirst).symm
    _ = delimiter.restore (delimiter.highlight second).value := congrArg delimiter.restore hsame
    _ = second := hrestore second hsecond

end Delimiter

/-- A document in which highlights will stand next to each other, next to an element, and at different depths. -/
def quotedSpans : Node :=
  .element "root" none .empty
    [.element "paragraph" none .empty
      [.text "!!a!!!!b!! c" (some ⟨⟨1, 1, 0⟩, ⟨1, 13, 12⟩⟩), Node.bare "break" none, .text "!!d!!" none] none,
    .text "" none, .element "blockquote" none .empty [.text "!!!e!!" none] none] none

theorem restore_highlight_quotedSpans :
    quotedSpans.Unmarked ∧
      Delimiter.standard.restore (Delimiter.standard.highlight quotedSpans).value = quotedSpans := by
  have h : quotedSpans.Unmarked := by
    refine ⟨rfl, by decide, ?_⟩
    simp [quotedSpans, Node.bare, Node.ForestApart, Node.TextsApart, Node.children?, Node.isText]
  exact ⟨h, (Delimiter.restore_highlight .standard).1 quotedSpans h⟩

end Highlighter
