import Highlighter.Proofs.Document.Outermost
import Highlighter.Proofs.Html.Rendering

/-!
# Handlers that override a kind

A handler that is registered for a kind should be asked wherever a node of this kind is shown. Main statements: with a handler
that writes a fixed text, the HTML of a tree is that of the tree in which the outermost nodes of the kind give way to a node
that is written as this text. If the other nodes show their children, it is the HTML as it was before, with the text in the
place of each of these nodes, so the handler is asked once for each.

The cells of a table row are an exception. A row without a handler writes the tags of its cells itself and goes on with what
is below them, so a handler for a cell is not asked, whatever the kind of the cell is. This makes a difference only if a child
of a row is of the kind.
-/

namespace Highlighter

/-! ## Other nodes in their places -/

/-- A handler that looks at nothing below its node but the HTML of the children. -/
def Handler.IsShallow (handler : Handler) : Prop :=
  ∀ node children html, handler (node.withChildren children) html = handler node html

/-- A handler puts markup around the children of a node. -/
def Handler.Surrounds (handler : Handler) (node : Node) : Prop :=
  ∃ opening closing, ∀ html, handler node html = opening ++ html ++ closing

namespace Renderer

section

variable (renderer : Renderer) (kind : String)

/-- Whether table rows write the tags of their cells themselves. -/
def rowsHaveCells : Bool := (renderer.handler? "tableRow").isNone

theorem makesCells_eq (node : Node) :
    renderer.makesCells node = (renderer.rowsHaveCells && node.kind == "tableRow") := by
  by_cases h : node.kind = "tableRow"
  · simp [makesCells, rowsHaveCells, h]
  · have hnotrow : (node.kind == "tableRow") = false := beq_eq_false_iff_ne.mpr h
    rw [makesCells, hnotrow, Bool.false_and, Bool.and_false]

/-- Another renderer has the same handler for a node, and this handler is shallow, unless the node is of one kind. -/
def Keeps (showing : Renderer) (node : Node) : Prop :=
  node.kind ≠ kind → showing.handler? node.kind = renderer.handler? node.kind ∧
    ∀ handler, renderer.handler? node.kind = some handler → handler.IsShallow

end

section

variable {renderer showing : Renderer} {kind text : String} {filler : Node}

/-- A node is written as after the replacement if its children, and the cells that they make, are. -/
theorem render_replaceFrom (hraw : showing.allowHtml = renderer.allowHtml) (hfiller : showing.render filler = text)
    {node : Node} (hkeeps : renderer.Keeps kind showing node)
    (hchildren : (renderer.register kind (.fixed text)).renderAll (node.children?.getD []) =
      showing.renderAll (Node.replaceAmong kind renderer.rowsHaveCells filler false (node.children?.getD [])))
    (hcells : ∀ tag, (renderer.register kind (.fixed text)).renderCells tag (node.children?.getD []) =
      showing.renderCells tag
        (Node.replaceAmong kind renderer.rowsHaveCells filler true (node.children?.getD []))) :
    (renderer.register kind (.fixed text)).render node =
      showing.render (Node.replaceFrom kind renderer.rowsHaveCells filler false node) := by
  rw [Node.replaceFrom_eq, if_neg Bool.false_ne_true]
  by_cases hkind : node.kind = kind
  · -- A node of the kind gives way to the filler, which is written as the text.
    subst hkind
    rw [if_pos rfl, hfiller, render_of_handler? _ node (handler?_register_self ..)]
    rfl
  · -- Any other node stays as it is but for its children, and is written in the same form around them.
    obtain ⟨hsame, hshallow⟩ := hkeeps hkind
    have hraw' : (renderer.register kind (.fixed text)).allowHtml = showing.allowHtml := hraw.symm
    have hhandler := renderer.handler?_register_of_ne hkind (.fixed text)
    have hmakes : (renderer.register kind (.fixed text)).makesCells node =
        (renderer.rowsHaveCells && node.kind == "tableRow") := by
      rw [← makesCells_eq, makesCells, makesCells, hhandler]
    -- A node keeps its children, so that it has some after the replacement if it had some before it.
    have hempty := Node.replaceAmong_isEmpty kind renderer.rowsHaveCells filler
      (renderer.rowsHaveCells && node.kind == "tableRow") (node.children?.getD [])
    have hbelow := Node.children?_getD_withChildren hempty
    rw [if_neg hkind]
    refine render_eq_of_alike hraw' (Node.alike_withChildren hempty).symm ?_ ?_ ?_ ?_
    · -- The handlers of other kinds are the same.
      rw [Node.kind_withChildren, hhandler, hsame]
    · -- A handler does not tell the node from the one whose children were replaced.
      intro handler hasked html
      rw [hhandler] at hasked
      exact (hshallow handler hasked node _ html).symm
    · -- Outside rows the children are written one after another.
      intro hnotrow
      rw [inner, inner, hbelow, ← hmakes, hnotrow, hchildren]
    · -- In a row they are cells, and are replaced as such.
      intro hrow tag
      rw [hbelow, ← hmakes, hrow, hcells]

theorem renderAll_replaceAmong (hraw : showing.allowHtml = renderer.allowHtml)
    (hfiller : showing.render filler = text) {nodes : List Node}
    (hkeeps : ∀ node ∈ Node.forestNodes nodes, renderer.Keeps kind showing node) :
    (renderer.register kind (.fixed text)).renderAll nodes =
        showing.renderAll (Node.replaceAmong kind renderer.rowsHaveCells filler false nodes) ∧
      ∀ tag, (renderer.register kind (.fixed text)).renderCells tag nodes =
        showing.renderCells tag (Node.replaceAmong kind renderer.rowsHaveCells filler true nodes) := by
  induction nodes using Node.siblingInduction with
  | nil => simp [Node.replaceAmong]
  | cons node nodes ihbelow ihnodes =>
    obtain ⟨hnode, hbelow, hnodes⟩ := Node.forall_mem_forestNodes_cons.mp hkeeps
    obtain ⟨hchildren, hcells⟩ := ihbelow hbelow
    refine ⟨?_, fun tag => ?_⟩
    · -- A sibling is written as after the replacement, and so are the ones behind it.
      rw [Node.replaceAmong, renderAll_cons, renderAll_cons, (ihnodes hnodes).1,
        render_replaceFrom hraw hfiller hnode hchildren hcells]
    · -- A cell stays in its place, whatever it is, and the replacement goes on below it.
      have hempty := Node.replaceAmong_isEmpty kind renderer.rowsHaveCells filler false (node.children?.getD [])
      rw [Node.replaceAmong, renderCells_cons, renderCells_cons, (ihnodes hnodes).2, Node.replaceFrom_eq,
        if_pos rfl, inner, inner, Node.children?_getD_withChildren hempty, hchildren]

theorem render_replaceOutermost (hraw : showing.allowHtml = renderer.allowHtml)
    (hfiller : showing.render filler = text) {tree : Node}
    (hkeeps : ∀ node ∈ tree :: tree.descendants, renderer.Keeps kind showing node) :
    (renderer.register kind (.fixed text)).render tree =
      showing.render (Node.replaceOutermost kind renderer.rowsHaveCells filler tree) := by
  have hforest : ∀ node ∈ Node.forestNodes [tree], renderer.Keeps kind showing node := by simpa using hkeeps
  obtain ⟨hall, -⟩ := renderAll_replaceAmong hraw hfiller hforest
  simpa [Node.replaceAmong, Node.replaceOutermost] using hall

end

end Renderer

/-! ## HTML with gaps -/

/-- A piece of HTML: markup that stays as it is, or the place of a node. -/
inductive Piece where
  | markup (html : String)
  | gap (node : Node)

/-- HTML in which nodes have places. -/
abbrev Template := List Piece

namespace Template

/-- The node in whose place a piece stands. -/
def gap? : Piece → Option Node
  | .markup _ => none
  | .gap node => some node

/-- The nodes that have places, in the order of the places. -/
def gaps (template : Template) : List Node := template.filterMap gap?

/-- A piece, with a text in the place of a node. -/
def filled (written : Node → String) : Piece → String
  | .markup html => html
  | .gap node => written node

/-- The HTML with a text in each place. -/
def fill (written : Node → String) (template : Template) : String := String.join (template.map (filled written))

theorem gaps_append (front back : Template) : gaps (front ++ back) = gaps front ++ gaps back :=
  List.filterMap_append

theorem fill_append (written : Node → String) (front back : Template) :
    fill written (front ++ back) = fill written front ++ fill written back := by
  rw [fill, List.map_append, String.join_append, fill, fill]

/-- A text that is filled in is there once for each node. -/
theorem length_fill (text : String) (template : Template) :
    (fill (fun _ => text) template).length =
      (fill (fun _ => "") template).length + (gaps template).length * text.length := by
  induction template with
  | nil => simp [gaps, fill]
  | cons piece template ih =>
    -- Markup is the same whatever is filled in, and a gap takes one more copy of the text.
    cases piece with
    | markup html =>
      simp [gaps, gap?, fill, filled, List.filterMap_cons] at ih ⊢
      omega
    | gap node =>
      simp [gaps, gap?, fill, filled, Nat.add_mul] at ih ⊢
      omega

end Template

/-- HTML as it was, and as it is with a text in the place of some nodes: there is one template for both, in which these nodes
have places. -/
def Renderer.AgreesBut (renderer : Renderer) (nodes : List Node) (before : String) (after : String → String) : Prop :=
  ∃ template : Template, template.gaps = nodes ∧ before = template.fill renderer.render ∧
    ∀ text, after text = template.fill fun _ => text

namespace Renderer

namespace AgreesBut

variable {renderer : Renderer} {xs ys : List Node} {before before' : String} {after after' : String → String}

theorem markup (html : String) : renderer.AgreesBut [] html fun _ => html := by
  refine ⟨[.markup html], rfl, ?_, fun text => ?_⟩ <;> simp [Template.fill, Template.filled]

theorem gap (node : Node) : renderer.AgreesBut [node] (renderer.render node) fun text => text := by
  refine ⟨[.gap node], rfl, ?_, fun text => ?_⟩ <;> simp [Template.fill, Template.filled]

theorem append (hfront : renderer.AgreesBut xs before after) (hback : renderer.AgreesBut ys before' after') :
    renderer.AgreesBut (xs ++ ys) (before ++ before') fun text => after text ++ after' text := by
  obtain ⟨front, rfl, rfl, hafter⟩ := hfront
  obtain ⟨back, rfl, rfl, hafter'⟩ := hback
  refine ⟨front ++ back, Template.gaps_append .., (Template.fill_append ..).symm, fun text => ?_⟩
  rw [Template.fill_append, ← hafter, ← hafter']

theorem around (opening closing : String) (h : renderer.AgreesBut xs before after) :
    renderer.AgreesBut xs (opening ++ before ++ closing) fun text => opening ++ after text ++ closing := by
  simpa using ((markup opening).append h).append (markup closing)

theorem cell (tag : String) (h : renderer.AgreesBut xs before after) :
    renderer.AgreesBut xs (Renderer.cell tag before) fun text => Renderer.cell tag (after text) := by
  simpa [Renderer.cell, String.append_assoc] using h.around ("<" ++ tag ++ ">") ("</" ++ tag ++ ">\n")

end AgreesBut

/-! ## Nodes that show their children -/

/-- The kinds that are written without their children. -/
def leafKinds : List String :=
  ["inlineCode", "code", "inlineMath", "math", "image", "thematicBreak", "break", "html", "footnoteReference"]

/-- A node has no children, or shows them. -/
def ShowsChildren (renderer : Renderer) (node : Node) : Prop :=
  node.children?.getD [] = [] ∨
    match renderer.handler? node.kind with
    | some handler => handler.Surrounds node
    | none => node.kind ∉ leafKinds

/-- The form of every other kind is markup around the children. -/
theorem exists_builtIn?_eq (renderer : Renderer) {kind : String} (h : kind ∉ leafKinds) (value : String)
    (attributes : Attributes) :
    ∃ opening closing, ∀ html,
      (renderer.builtIn? kind value attributes html).getD (fallback value true html) = opening ++ html ++ closing := by
  unfold builtIn?
  split
  -- A kind that stands in the list is none of the others.
  all_goals try exact absurd (by decide) h
  all_goals simp only [Option.getD_some, Option.getD_none, fallback, if_true]
  case h_1 => exact ⟨"", "", fun html => by simp⟩
  case h_3 =>
    refine ⟨"<" ++ headingTag attributes ++ ">", "</" ++ headingTag attributes ++ ">\n", fun html => ?_⟩
    simp [String.append_assoc]
  all_goals exact ⟨_, _, fun _ => rfl⟩

section

variable {renderer : Renderer} {kind : String} {node : Node}

/-- Nothing gives way below a node without children. -/
theorem agreesBut_of_childless (hkind : node.kind ≠ kind) (hnone : node.children?.getD [] = []) :
    renderer.AgreesBut [] (renderer.render node) fun text => (renderer.register kind (.fixed text)).render node := by
  have hsame : ∀ text, (renderer.register kind (.fixed text)).render node = renderer.render node := by
    intro text
    have hraw : (renderer.register kind (.fixed text)).allowHtml = renderer.allowHtml := rfl
    have hhandler := renderer.handler?_register_of_ne hkind (.fixed text)
    refine render_eq_of_alike hraw ⟨rfl, rfl, rfl, rfl⟩ hhandler (fun _ _ _ => rfl) ?_ ?_
    · intro _
      rw [inner, inner, hnone, renderAll_nil, renderAll_nil]
    · intro _ tag
      rw [hnone, renderCells_nil, renderCells_nil]
  simp only [hsame]
  exact .markup _

/-- A node that shows its children, and makes no cells, has markup around them. -/
theorem exists_render_eq (hkind : node.kind ≠ kind) (hshows : renderer.ShowsChildren node)
    (hsome : node.children?.getD [] ≠ []) (hnotrow : renderer.makesCells node = false) :
    ∃ opening closing, renderer.render node = opening ++ renderer.inner node ++ closing ∧
      ∀ text, (renderer.register kind (.fixed text)).render node =
        opening ++ (renderer.register kind (.fixed text)).inner node ++ closing := by
  have hshown := hshows.resolve_left hsome
  have hhandler := fun text => renderer.handler?_register_of_ne hkind (.fixed text)
  cases hasked : renderer.handler? node.kind with
  | some handler =>
    -- The handler is the same one with any text, and it writes its markup around what it is given.
    rw [hasked] at hshown
    obtain ⟨opening, closing, hwritten⟩ := hshown
    refine ⟨opening, closing, ?_, fun text => ?_⟩
    · rw [render_of_handler? _ node hasked, hwritten]
    · rw [render_of_handler? _ node ((hhandler text).trans hasked), hwritten]
  | none =>
    rw [hasked] at hshown
    -- A row without a handler would make cells.
    have hrow : node.kind ≠ "tableRow" := by
      intro hrow
      simp [makesCells, hrow ▸ hasked, hrow] at hnotrow
    obtain ⟨opening, closing, hwritten⟩ :=
      renderer.exists_builtIn?_eq hshown (node.value?.getD "") node.attributes
    have hparent : (!(node.children?.getD []).isEmpty) = true := by simpa using hsome
    refine ⟨opening, closing, ?_, fun text => ?_⟩
    · rw [render_of_not_handler? _ node hasked, if_neg hrow, hparent, hwritten]
    · rw [render_of_not_handler? _ node ((hhandler text).trans hasked), if_neg hrow, hparent]
      exact hwritten _

/-- What is written for a node is what was written for it but for the nodes that give way, if this holds of its children and
of the cells that they make. -/
theorem agreesBut_outermostFrom (hshows : node.kind ≠ kind → renderer.ShowsChildren node)
    (hchildren : renderer.AgreesBut (Node.outermostAmong kind renderer.rowsHaveCells false (node.children?.getD []))
      (renderer.inner node) fun text => (renderer.register kind (.fixed text)).inner node)
    (hcells : ∀ tag, renderer.AgreesBut
      (Node.outermostAmong kind renderer.rowsHaveCells true (node.children?.getD []))
      (renderer.renderCells tag (node.children?.getD [])) fun text =>
        (renderer.register kind (.fixed text)).renderCells tag (node.children?.getD [])) :
    renderer.AgreesBut (Node.outermostFrom kind renderer.rowsHaveCells false node) (renderer.render node) fun text =>
      (renderer.register kind (.fixed text)).render node := by
  rw [Node.outermostFrom_eq, if_neg Bool.false_ne_true]
  by_cases hkind : node.kind = kind
  · -- The node is an outermost one, so that the whole of it is the gap.
    subst hkind
    have hwritten : ∀ text, (renderer.register node.kind (.fixed text)).render node = text := fun text =>
      render_of_handler? _ node (handler?_register_self ..)
    simp only [hwritten, if_true]
    exact .gap node
  rw [if_neg hkind, ← makesCells_eq]
  -- A node without children is written alike with any text, since nothing of the kind is below it.
  by_cases hnone : node.children?.getD [] = []
  · rw [hnone]
    exact agreesBut_of_childless hkind hnone
  cases hmakes : renderer.makesCells node with
  | false =>
    -- The gaps are in what is written for the children, between the markup of the node.
    obtain ⟨opening, closing, hbefore, hafter⟩ := exists_render_eq hkind (hshows hkind) hnone hmakes
    simp only [hbefore, hafter]
    exact hchildren.around opening closing
  | true =>
    -- The gaps are in the cells of the row.
    have hrow := kind_of_makesCells hmakes
    have hasked : renderer.handler? node.kind = none := by simpa [makesCells, hrow] using hmakes
    have hhandler := fun text => (renderer.handler?_register_of_ne hkind (.fixed text)).trans hasked
    simp only [render_of_not_handler? _ node hasked, fun text => render_of_not_handler? _ node (hhandler text), hrow,
      if_true]
    exact (hcells _).around "<tr>\n" "</tr>\n"

theorem agreesBut_outermostAmong {nodes : List Node}
    (hshows : ∀ node ∈ Node.forestNodes nodes, node.kind ≠ kind → renderer.ShowsChildren node) :
    (renderer.AgreesBut (Node.outermostAmong kind renderer.rowsHaveCells false nodes) (renderer.renderAll nodes)
        fun text => (renderer.register kind (.fixed text)).renderAll nodes) ∧
      ∀ tag, renderer.AgreesBut (Node.outermostAmong kind renderer.rowsHaveCells true nodes)
        (renderer.renderCells tag nodes) fun text =>
          (renderer.register kind (.fixed text)).renderCells tag nodes := by
  induction nodes using Node.siblingInduction with
  | nil =>
    simp only [Node.outermostAmong, renderAll_nil, renderCells_nil]
    exact ⟨.markup "", fun _ => .markup ""⟩
  | cons node nodes ihbelow ihnodes =>
    obtain ⟨hnode, hbelow, hnodes⟩ := Node.forall_mem_forestNodes_cons.mp hshows
    obtain ⟨hchildren, hcells⟩ := ihbelow hbelow
    simp only [Node.outermostAmong, renderAll_cons, renderCells_cons]
    refine ⟨(agreesBut_outermostFrom hnode hchildren hcells).append (ihnodes hnodes).1, fun tag => ?_⟩
    -- A cell itself is no gap, whatever its kind is; the gaps are below it.
    rw [Node.outermostFrom_eq, if_pos rfl]
    exact (AgreesBut.cell tag hchildren).append ((ihnodes hnodes).2 tag)

theorem agreesBut_outermost {tree : Node}
    (hshows : ∀ node ∈ tree :: tree.descendants, node.kind ≠ kind → renderer.ShowsChildren node) :
    renderer.AgreesBut (tree.outermost kind renderer.rowsHaveCells) (renderer.render tree) fun text =>
      (renderer.register kind (.fixed text)).render tree := by
  have hforest : ∀ node ∈ Node.forestNodes [tree], node.kind ≠ kind → renderer.ShowsChildren node := by
    simpa using hshows
  obtain ⟨hall, -⟩ := agreesBut_outermostAmong hforest
  simpa [Node.outermostAmong, Node.outermost] using hall

end

/-! ## Handlers that write a fixed text -/

/-- **A handler that writes a fixed text writes it once for each outermost node of its kind.** The HTML is that of the tree in
which these nodes give way to a node that is written as this text. If the other nodes show their children, it is the HTML as
it was, with the text in the place of each of these nodes. A handler is not asked for the children of a row that has none; if
none of them is of its kind, this makes no difference. The renderer is any one whose handlers are given their node and the
HTML of its children. -/
theorem render_register_fixed (renderer : Renderer) (kind : String) (tree : Node) :
    (∀ text showing filler, showing.allowHtml = renderer.allowHtml → showing.render filler = text →
        (∀ node ∈ tree :: tree.descendants, renderer.Keeps kind showing node) →
        (renderer.register kind (.fixed text)).render tree =
          showing.render (Node.replaceOutermost kind renderer.rowsHaveCells filler tree)) ∧
      ((∀ node ∈ tree :: tree.descendants, node.kind ≠ kind → renderer.ShowsChildren node) →
        renderer.AgreesBut (tree.outermost kind renderer.rowsHaveCells) (renderer.render tree) fun text =>
          (renderer.register kind (.fixed text)).render tree) ∧
      ((∀ node ∈ tree :: tree.descendants, node.HasNoCell kind) → ∀ filler,
        tree.outermost kind renderer.rowsHaveCells = tree.outermost kind false ∧
          Node.replaceOutermost kind renderer.rowsHaveCells filler tree =
            Node.replaceOutermost kind false filler tree) := by
  refine ⟨fun text showing filler hraw hfiller hkeeps => ?_, fun hshows => ?_, fun hcells filler => ?_⟩
  · exact render_replaceOutermost hraw hfiller hkeeps
  · exact agreesBut_outermost hshows
  · exact Node.outermost_of_hasNoCell hcells

theorem styled_of_standard {kind : String} {handler : Handler} (h : standard.handler? kind = some handler) :
    handler = .styled defaultStyle := by
  simpa [standard, plain, register] using congrArg Prod.snd (List.mem_singleton.mp (mem_of_handler? h))

/-- A tree in which strong text holds strong text, stands in a highlight and in a cell, and is a cell itself. -/
def strongTree : Node :=
  .element "root" none .empty
    [.element "paragraph" none .empty
      [.element "strong" none .empty [.text "a" none, .element "strong" none .empty [.text "b" none] none] none,
        .highlight "c" [.element "strong" none .empty [.text "c" none] none] none] none,
      .element "tableRow" none .empty
        [.element "tableCell" none .empty [.element "strong" none .empty [.text "d" none] none] none,
          .element "strong" none .empty [.text "e" none, .element "strong" none .empty [.text "f" none] none] none]
        none] none

theorem render_register_fixed_strongTree :
    let showing := standard.register "slot" (.fixed "<b>")
    (∀ node ∈ strongTree :: strongTree.descendants, standard.Keeps "strong" showing node) ∧
      (∀ node ∈ strongTree :: strongTree.descendants, node.kind ≠ "strong" → standard.ShowsChildren node) ∧
      (standard.register "strong" (.fixed "<b>")).render strongTree =
        showing.render (Node.replaceOutermost "strong" true (Node.bare "slot" none) strongTree) ∧
      (standard.AgreesBut (strongTree.outermost "strong" true) (standard.render strongTree) fun text =>
        (standard.register "strong" (.fixed text)).render strongTree) ∧
      (∀ node ∈ strongTree :: strongTree.descendants, node.HasNoCell "highlight") ∧
      strongTree.outermost "highlight" true = strongTree.outermost "highlight" false := by
  intro showing
  have hkinds : ∀ node ∈ strongTree :: strongTree.descendants, node.kind ≠ "slot" ∧ node.kind ∉ leafKinds := by decide
  have hkeeps : ∀ node ∈ strongTree :: strongTree.descendants, standard.Keeps "strong" showing node := by
    -- The only handler is that for highlights, which looks at no node.
    intro node hmem _
    refine ⟨handler?_register_of_ne standard (hkinds node hmem).1 _, fun handler hhandler => ?_⟩
    rw [styled_of_standard hhandler]
    exact fun _ _ _ => rfl
  have hshows : ∀ node ∈ strongTree :: strongTree.descendants,
      node.kind ≠ "strong" → standard.ShowsChildren node := by
    intro node hmem _
    right
    cases hhandler : standard.handler? node.kind with
    | some handler =>
      rw [styled_of_standard hhandler]
      exact ⟨_, _, fun _ => rfl⟩
    | none => exact (hkinds node hmem).2
  have hfiller : showing.render (Node.bare "slot" none) = "<b>" :=
    render_of_handler? _ (Node.bare "slot" none) (handler?_register_self ..)
  have hcells : ∀ node ∈ strongTree :: strongTree.descendants, node.HasNoCell "highlight" := by decide
  obtain ⟨hreplaced, hagrees, -⟩ := render_register_fixed standard "strong" strongTree
  refine ⟨hkeeps, hshows, hreplaced "<b>" showing _ rfl hfiller hkeeps, hagrees hshows, hcells, ?_⟩
  exact ((render_register_fixed plain "highlight" strongTree).2.2 hcells (Node.bare "slot" none)).1

/-- A table of one cell. -/
def cellTable : Node :=
  .element "table" none .empty
    [.element "tableRow" none .empty [.element "tableCell" none .empty [.text "x" none] none] none] none

/-- A handler for cells is not asked, though each node above the cell shows its children: there is a cell, but no handler
changes the HTML, so the text is in the place of no node. -/
theorem not_render_register_fixed :
    (∀ node ∈ cellTable :: cellTable.descendants, node.kind ≠ "tableCell" → plain.ShowsChildren node) ∧
      (cellTable.outermost "tableCell" false).length = 1 ∧
      (plain.register "tableCell" (.fixed "S")).render cellTable ≠
        plain.render (Node.replaceOutermost "tableCell" false (.text "S" none) cellTable) ∧
      ¬ plain.AgreesBut (cellTable.outermost "tableCell" false) (plain.render cellTable) fun text =>
        (plain.register "tableCell" (.fixed text)).render cellTable := by
  have hkinds : ∀ node ∈ cellTable :: cellTable.descendants, node.kind ∉ leafKinds := by decide
  -- The handler is not asked, so each text gives the same HTML.
  have hwritten : ∀ text, (plain.register "tableCell" (.fixed text)).render cellTable =
      "<table>\n<tr>\n<td>x</td>\n</tr>\n</table>\n" := by
    intro text
    rfl
  refine ⟨fun node hmem _ => .inr (hkinds node hmem), rfl, ?_, ?_⟩
  · rw [hwritten]
    decide
  · -- A template with one gap would be longer by the text that is put there.
    rintro ⟨template, hgaps, -, hafter⟩
    have hlength := Template.length_fill "S" template
    rw [← hafter, ← hafter, hgaps] at hlength
    simp only [hwritten] at hlength
    exact absurd hlength (by decide)

end Renderer

end Highlighter
