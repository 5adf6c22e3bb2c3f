import Highlighter.Proofs.Document.Descendants

/-!
# The outermost nodes of a kind

A search for the nodes of a kind that starts at the root of a tree and does not go on below a node that it has found. Other
nodes can be put in the places of those that are found, and only what is above them is kept.

The children of a table row can be passed over, with the search going on below them. This makes a difference only if one of
them is of the kind.
-/

namespace Highlighter

namespace Node

variable (kind : String) (rowsHaveCells : Bool)

mutual

/-- The outermost nodes of a kind, from a node on. If rows have cells, the children of a table row are passed over, and the
search goes on below them. -/
def outermostFrom (cell : Bool) : Node → List Node
  | .text value position => if cell then [] else if "text" = kind then [.text value position] else []
  | .highlight value children position =>
    if cell then outermostAmong false children
    else if "highlight" = kind then [.highlight value children position]
    else outermostAmong false children
  | .element own value attributes children position =>
    if cell then outermostAmong false children
    else if own = kind then [.element own value attributes children position]
    else outermostAmong (rowsHaveCells && own == "tableRow") children

/-- The outermost nodes of a kind among siblings and below them, in document order. -/
def outermostAmong (cells : Bool) : List Node → List Node
  | [] => []
  | node :: nodes => outermostFrom cells node ++ outermostAmong cells nodes

end

/-- The outermost nodes of a kind in a tree, in document order. -/
def outermost (tree : Node) : List Node := outermostFrom kind rowsHaveCells false tree

variable (filler : Node)

mutual

/-- A node with a filler in the place of each outermost node of a kind. -/
def replaceFrom (cell : Bool) : Node → Node
  | .text value position =>
    if cell then .text value position else if "text" = kind then filler else .text value position
  | .highlight value children position =>
    if cell then .highlight value (replaceAmong false children) position
    else if "highlight" = kind then filler
    else .highlight value (replaceAmong false children) position
  | .element own value attributes children position =>
    if cell then .element own value attributes (replaceAmong false children) position
    else if own = kind then filler
    else .element own value attributes (replaceAmong (rowsHaveCells && own == "tableRow") children) position

/-- Siblings with a filler in the place of each outermost node of a kind. -/
def replaceAmong (cells : Bool) : List Node → List Node
  | [] => []
  | node :: nodes => replaceFrom cells node :: replaceAmong cells nodes

end

/-- A tree with a filler in the place of each outermost node of a kind. -/
def replaceOutermost (tree : Node) : Node := replaceFrom kind rowsHaveCells filler false tree

theorem outermostFrom_eq (cell : Bool) (node : Node) :
    outermostFrom kind rowsHaveCells cell node =
      if cell then outermostAmong kind rowsHaveCells false (node.children?.getD [])
      else if node.kind = kind then [node]
      else outermostAmong kind rowsHaveCells (rowsHaveCells && node.kind == "tableRow") (node.children?.getD []) := by
  cases node with
  | text value position => rfl
  | highlight value children position =>
    -- A highlight is no row, so its children are no cells.
    have hrow : (rowsHaveCells && Node.kind (.highlight value children position) == "tableRow") = false := by
      simp [Node.kind]
    rw [hrow, outermostFrom]
    rfl
  | element own value attributes children position =>
    rw [outermostFrom]
    rfl

theorem replaceFrom_eq (cell : Bool) (node : Node) :
    replaceFrom kind rowsHaveCells filler cell node =
      if cell then node.withChildren (replaceAmong kind rowsHaveCells filler false (node.children?.getD []))
      else if node.kind = kind then filler
      else node.withChildren
        (replaceAmong kind rowsHaveCells filler (rowsHaveCells && node.kind == "tableRow")
          (node.children?.getD [])) := by
  cases node with
  | text value position => rfl
  | highlight value children position =>
    -- A highlight is no row here either.
    have hrow : (rowsHaveCells && Node.kind (.highlight value children position) == "tableRow") = false := by
      simp [Node.kind]
    rw [hrow, replaceFrom]
    rfl
  | element own value attributes children position =>
    rw [replaceFrom]
    rfl

theorem replaceAmong_isEmpty (cells : Bool) (nodes : List Node) :
    (replaceAmong kind rowsHaveCells filler cells nodes).isEmpty = nodes.isEmpty := by
  cases nodes <;> rfl

/-! ## Rows whose children are of other kinds -/

section

variable {kind rowsHaveCells filler}

/-- If a node is a table row, none of its children is of a kind. -/
def HasNoCell (kind : String) (node : Node) : Prop :=
  node.kind = "tableRow" → ∀ child ∈ node.children?.getD [], child.kind ≠ kind

instance (node : Node) : Decidable (node.HasNoCell kind) :=
  inferInstanceAs (Decidable (node.kind = "tableRow" → ∀ child ∈ node.children?.getD [], child.kind ≠ kind))

/-- A recursion over trees that ends at nodes of a kind and passes over cells, with what it makes of a node of the kind, of
another node and what is below it, and of a node and its siblings. -/
structure IsSearch {α β : Type} (kind : String) (here : Node → α) (below : Node → β → α) (join : α → β → β)
    (visit : Bool → Bool → Node → α) (visitAll : Bool → Bool → List Node → β) : Prop where
  nil : ∀ rows cells, visitAll rows cells [] = visitAll false false []
  cons : ∀ rows cells node nodes,
    visitAll rows cells (node :: nodes) = join (visit rows cells node) (visitAll rows cells nodes)
  node : ∀ rows cell node, visit rows cell node =
    if cell then below node (visitAll rows false (node.children?.getD []))
    else if node.kind = kind then here node
    else below node (visitAll rows (rows && node.kind == "tableRow") (node.children?.getD []))

theorem isSearch_outermost :
    IsSearch kind (fun node => [node]) (fun _ nodes => nodes) (· ++ ·) (outermostFrom kind) (outermostAmong kind) :=
  ⟨fun _ _ => rfl, fun _ _ _ _ => rfl, outermostFrom_eq kind⟩

theorem isSearch_replace :
    IsSearch kind (fun _ => filler) withChildren (· :: ·) (replaceFrom kind · filler) (replaceAmong kind · filler) :=
  ⟨fun _ _ => rfl, fun _ _ _ _ => rfl, fun rowsHaveCells => replaceFrom_eq kind rowsHaveCells filler⟩

variable {α β : Type} {here : Node → α} {below : Node → β → α} {join : α → β → β} {visit : Bool → Bool → Node → α}
  {visitAll : Bool → Bool → List Node → β}

theorem IsSearch.visit_eq (search : IsSearch kind here below join visit visitAll) {node : Node}
    (hnode : node.HasNoCell kind)
    (hchildren : visitAll rowsHaveCells false (node.children?.getD []) =
      visitAll false false (node.children?.getD []))
    (hcells : (∀ child ∈ node.children?.getD [], child.kind ≠ kind) →
      visitAll rowsHaveCells true (node.children?.getD []) = visitAll false false (node.children?.getD [])) :
    visit rowsHaveCells false node = visit false false node := by
  rw [search.node, search.node, Bool.false_and]
  cases hrow : rowsHaveCells && node.kind == "tableRow" with
  | false => simp only [hchildren]
  | true =>
    have hkind : node.kind = "tableRow" := eq_of_beq (Bool.and_eq_true_iff.mp hrow).2
    simp only [hchildren, hcells (hnode hkind)]

/-- Rows make no difference to a search if their children are of other kinds, nor does it whether such siblings are cells. -/
theorem IsSearch.visitAll_eq (search : IsSearch kind here below join visit visitAll) {nodes : List Node}
    (h : ∀ node ∈ forestNodes nodes, node.HasNoCell kind) :
    visitAll rowsHaveCells false nodes = visitAll false false nodes ∧
      ((∀ node ∈ nodes, node.kind ≠ kind) → visitAll rowsHaveCells true nodes = visitAll false false nodes) := by
  induction nodes using siblingInduction with
  | nil => exact ⟨search.nil .., fun _ => search.nil ..⟩
  | cons node nodes ihbelow ihnodes =>
    obtain ⟨hnode, hbelow, hnodes⟩ := forall_mem_forestNodes_cons.mp h
    obtain ⟨hchildren, hcells⟩ := ihbelow hbelow
    obtain ⟨hothers, hotherCells⟩ := ihnodes hnodes
    refine ⟨?_, fun hkinds => ?_⟩
    · -- What the first node gives is the same by its own children, and the siblings are the same by induction.
      rw [search.cons, search.cons, search.visit_eq hnode hchildren hcells, hothers]
    · -- As a cell the node is passed over, which makes no difference since it is of another kind.
      obtain ⟨hkind, hkinds⟩ := List.forall_mem_cons.mp hkinds
      have hcell : visit rowsHaveCells true node = visit false false node := by
        rw [search.node, search.node, if_pos rfl, if_neg Bool.false_ne_true, if_neg hkind, Bool.false_and, hchildren]
      rw [search.cons, search.cons, hcell, hotherCells hkinds]

/-- Rows make no difference to what is found in a tree, and to what is put there, if their children are of other kinds. -/
theorem outermost_of_hasNoCell {tree : Node} (h : ∀ node ∈ tree :: tree.descendants, node.HasNoCell kind) :
    tree.outermost kind rowsHaveCells = tree.outermost kind false ∧
      replaceOutermost kind rowsHaveCells filler tree = replaceOutermost kind false filler tree := by
  have hforest : ∀ node ∈ forestNodes [tree], node.HasNoCell kind := by simpa using h
  obtain ⟨hnode, hbelow, -⟩ := forall_mem_forestNodes_cons.mp hforest
  constructor
  · obtain ⟨hchildren, hcells⟩ := isSearch_outermost.visitAll_eq hbelow
    exact isSearch_outermost.visit_eq hnode hchildren hcells
  · obtain ⟨hchildren, hcells⟩ := isSearch_replace.visitAll_eq hbelow
    exact isSearch_replace.visit_eq hnode hchildren hcells

end

end Node

end Highlighter
