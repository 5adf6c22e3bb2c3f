import Highlighter.Proofs.Html.Rendering
import Highlighter.Proofs.Pass.Repetition

/-!
# Spans expanded while rendering

Highlights can be made in the tree or in the HTML. Main statement: the HTML of a highlighted tree is that of the tree as it
was, written by a renderer that puts a styled span in the place of each span of a text.

The two renderers look up the same handlers for everything but texts. What a renderer chooses by is the kind of a node,
its attributes, and whether it has children, and a pass changes none of these: it puts at least one node in the place
of a text, and it keeps what is no text.
-/

namespace Highlighter

namespace Handler

/-- The HTML of a piece of a text: what is plain, escaped, and the value of a highlight in a styled span. -/
def piece (style : String) : Node → String
  | .text value _ => Html.escapeText value
  | .highlight value children position =>
    styled style (.highlight value children position) (Html.escapeText value)
  | .element .. => ""

/-- Writes a text piece by piece, as a delimiter cuts it. -/
def expanding (delimiter : Delimiter) (style : String) : Handler := fun node _ =>
  String.join ((delimiter.split (node.value?.getD "") node.position?).map (piece style))

end Handler

namespace Node

/-- A node that is no text is of another kind, and if it is a table row, none of its children is a text. -/
structure ShowsTexts (node : Node) : Prop where
  kind : node.kind = "text" → node.isText = true
  cells : node.kind = "tableRow" → ∀ child ∈ node.children?.getD [], child.isText = false

instance (node : Node) : Decidable node.ShowsTexts :=
  decidable_of_iff
    ((node.kind = "text" → node.isText = true) ∧
      (node.kind = "tableRow" → ∀ child ∈ node.children?.getD [], child.isText = false))
    ⟨fun h => ⟨h.1, h.2⟩, fun h => ⟨h.kind, h.cells⟩⟩

end Node

namespace Renderer

/-- A renderer that knows highlights only, and shows them as styled spans. -/
def highlighting (style : String) (allowHtml : Bool) : Renderer :=
  (Renderer.mk [] allowHtml).register "highlight" (.styled style)

/-- The same renderer with a handler for texts, which shows the spans in them as styled spans. -/
def expanding (delimiter : Delimiter) (style : String) (allowHtml : Bool) : Renderer :=
  (highlighting style allowHtml).register "text" (.expanding delimiter style)

variable (delimiter : Delimiter) (style : String) (allowHtml : Bool)

/-! ## What the two renderers share -/

theorem handler?_highlighting (kind : String) :
    (highlighting style allowHtml).handler? kind =
      if kind = "highlight" then some (Handler.styled style) else none := by
  by_cases h : kind = "highlight"
  · rw [if_pos h, h, highlighting, handler?_register_self]
  · rw [if_neg h, highlighting, handler?_register_of_ne _ h]
    rfl

theorem styled_of_handler? {kind : String} {handler : Handler}
    (h : (highlighting style allowHtml).handler? kind = some handler) : handler = .styled style := by
  rw [handler?_highlighting, Option.ite_none_right_eq_some] at h
  exact (Option.some.inj h.2).symm

theorem handler?_expanding_text :
    (expanding delimiter style allowHtml).handler? "text" = some (.expanding delimiter style) :=
  handler?_register_self ..

theorem handler?_expanding_of_ne {kind : String} (h : kind ≠ "text") :
    (expanding delimiter style allowHtml).handler? kind = (highlighting style allowHtml).handler? kind :=
  handler?_register_of_ne _ h _

/-! ## Pieces -/

/-- A piece that a pass leaves is written as the handler for texts writes it. -/
theorem render_piece {text : String} {position : Option Position} {node : Node}
    (h : node ∈ delimiter.split text position) :
    (highlighting style allowHtml).render node = Handler.piece style node := by
  have hplain : ∀ value own, (highlighting style allowHtml).render (.text value own) = Html.escapeText value := by
    intro value own
    exact render_text (handler?_highlighting style allowHtml "text") value own
  cases node with
  | text value own => exact hplain value own
  | highlight value children own =>
    obtain ⟨-, -, rfl, -⟩ := delimiter.highlight_of_mem_split text position h
    have hhandler := handler?_highlighting style allowHtml "highlight"
    rw [render_of_handler? _ (.highlight value [.text value none] own) hhandler, inner_of_children? _ rfl,
      renderAll_cons, renderAll_nil, String.append_empty, hplain, Handler.piece]
  | element kind value attributes children own =>
    -- No cut makes an element.
    obtain ⟨hkind, -⟩ := delimiter.carried_of_mem_split text position h
    simp [Node.isText, Node.isHighlight] at hkind

theorem renderAll_split (text : String) (position : Option Position) :
    (highlighting style allowHtml).renderAll (delimiter.split text position) =
      (expanding delimiter style allowHtml).render (.text text position) := by
  -- Each node of the cut is rendered on its own, so this is an induction over any part of the cut.
  have hall : ∀ nodes : List Node, (∀ node ∈ nodes, node ∈ delimiter.split text position) →
      (highlighting style allowHtml).renderAll nodes = String.join (nodes.map (Handler.piece style)) := by
    intro nodes hnodes
    induction nodes with
    | nil => simp
    | cons node nodes ih =>
      obtain ⟨hnode, hothers⟩ := List.forall_mem_cons.mp hnodes
      rw [renderAll_cons, render_piece delimiter style allowHtml hnode, ih hothers, List.map_cons, String.join_cons]
  rw [hall _ fun _ hnode => hnode,
    render_of_handler? _ (.text text position) (handler?_expanding_text delimiter style allowHtml)]
  rfl

/-! ## Whole trees -/

/-- A node comes out alike if its children and the cells that they make do. -/
theorem render_withChildren {node : Node} {children : List Node} (hnode : node.children? = some children)
    (hshows : node.ShowsTexts)
    (hchildren : (highlighting style allowHtml).renderAll (delimiter.splitAmong children) =
      (expanding delimiter style allowHtml).renderAll children)
    (hcells : (∀ child ∈ children, child.isText = false) → ∀ tag,
      (highlighting style allowHtml).renderCells tag (delimiter.splitAmong children) =
        (expanding delimiter style allowHtml).renderCells tag children) :
    (highlighting style allowHtml).render (node.withChildren (delimiter.splitAmong children)) =
      (expanding delimiter style allowHtml).render node := by
  have htext : node.isText = false := Node.isText_of_children? hnode
  have hnew := node.children?_withChildren (delimiter.splitAmong children) htext
  -- The form may depend on whether there are children, and there are none only if there were none.
  have hempty : (delimiter.splitAmong children).isEmpty = (node.children?.getD []).isEmpty := by
    rw [hnode, Option.getD_some, Bool.eq_iff_iff, List.isEmpty_iff, List.isEmpty_iff,
      delimiter.splitAmong_eq_nil_iff]
  have hsame : (expanding delimiter style allowHtml).handler? node.kind =
      (highlighting style allowHtml).handler? node.kind := by
    apply handler?_expanding_of_ne
    intro hkind
    simp [hshows.kind hkind] at htext
  refine render_eq_of_alike rfl (Node.alike_withChildren hempty) ?_ ?_ ?_ ?_
  · rw [Node.kind_withChildren, hsame]
  · -- The span is put around the children, whatever else the node is.
    intro handler hhandler html
    rw [styled_of_handler? style allowHtml hhandler]
    rfl
  · intro _
    rw [inner_of_children? _ hnew, inner_of_children? _ hnode, hchildren]
  · intro hrow tag
    have hplain := hshows.cells (node.kind_withChildren _ ▸ kind_of_makesCells hrow)
    rw [hnode, Option.getD_some] at hplain ⊢
    rw [hnew, Option.getD_some, hcells hplain]

theorem renderAll_splitAmong {nodes : List Node} (h : ∀ node ∈ Node.forestNodes nodes, node.ShowsTexts) :
    (highlighting style allowHtml).renderAll (delimiter.splitAmong nodes) =
        (expanding delimiter style allowHtml).renderAll nodes ∧
      ((∀ node ∈ nodes, node.isText = false) → ∀ tag,
        (highlighting style allowHtml).renderCells tag (delimiter.splitAmong nodes) =
          (expanding delimiter style allowHtml).renderCells tag nodes) := by
  -- A row makes a cell of each child, so a text in it may not be cut; both parts follow the same induction.
  induction nodes using Node.forestInduction with
  | nil => simp
  | text value position nodes ih =>
    obtain ⟨-, hothers⟩ := List.forall_mem_cons.mp h
    constructor
    · rw [Delimiter.splitAmong_text, renderAll_append, renderAll_split, (ih hothers).1, renderAll_cons]
    · -- A text is no cell.
      intro hcells
      simp [Node.isText] at hcells
  | parent node children nodes hchildren ihchildren ihnodes =>
    obtain ⟨hshows, hbelow, hothers⟩ := (Node.forall_mem_forestNodes_of_children? hchildren).mp h
    obtain ⟨hinner, hinnerCells⟩ := ihchildren hbelow
    obtain ⟨hnodes, hcells⟩ := ihnodes hothers
    have hnew := node.children?_withChildren (delimiter.splitAmong children)
      (Node.isText_of_children? hchildren)
    rw [delimiter.splitAmong_of_children? hchildren]
    constructor
    · rw [renderAll_cons, renderAll_cons, hnodes,
        render_withChildren delimiter style allowHtml hchildren hshows hinner hinnerCells]
    · intro htexts tag
      obtain ⟨-, hothers⟩ := List.forall_mem_cons.mp htexts
      rw [renderCells_cons, renderCells_cons, inner_of_children? _ hnew, inner_of_children? _ hchildren, hinner,
        hcells hothers]

/-- **Highlights can be made in the tree or in the HTML.** If the texts of a tree are shown as texts, what is rendered
behind a pass is what is rendered without it by the renderer that expands spans. -/
theorem render_expanding {tree : Node} (hroot : tree.isText = false)
    (hshows : ∀ node ∈ tree :: tree.descendants, node.ShowsTexts) :
    (highlighting style allowHtml).render (delimiter.highlight tree).value =
      (expanding delimiter style allowHtml).render tree := by
  have hforest : ∀ node ∈ Node.forestNodes [tree], node.ShowsTexts := by simpa using hshows
  obtain ⟨hall, -⟩ := renderAll_splitAmong delimiter style allowHtml hforest
  rw [delimiter.splitAmong_singleton hroot, renderAll_cons, renderAll_cons, renderAll_nil, renderAll_nil,
    String.append_empty, String.append_empty] at hall
  rw [Delimiter.value_highlight]
  exact hall

/-- A table with spans in a cell, in a highlight that is a cell, and in an element of a kind that nothing is known of. -/
def markedTable : Node :=
  .element "root" none .empty
    [.element "table" none .empty
      [.element "tableRow" none .empty
        [.element "tableCell" none .empty [.text "a !!<b>!!!!c!!" none] none,
          .highlight "d !!e!!" [.text "d !!e!!" none] none] none] none,
      .element "note" (some "!!f!!") .empty [.text "" none, Node.bare "break" none, .text "!!g!!" none] none] none

theorem render_expanding_markedTable :
    (markedTable.isText = false ∧ ∀ node ∈ markedTable :: markedTable.descendants, node.ShowsTexts) ∧
      (highlighting defaultStyle false).render (Delimiter.standard.highlight markedTable).value =
        (expanding .standard defaultStyle false).render markedTable := by
  have hshows : ∀ node ∈ markedTable :: markedTable.descendants, node.ShowsTexts := by decide
  exact ⟨⟨rfl, hshows⟩, render_expanding .standard defaultStyle false rfl hshows⟩

end Renderer

end Highlighter
