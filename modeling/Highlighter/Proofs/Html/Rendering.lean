import Highlighter.Html.Renderer
import Highlighter.Proofs.Document.Descendants

/-!
# Rendering node by node

What a renderer writes for a node depends on the node itself and on the HTML of its children. Siblings are written one
after another, and a table row puts a cell around the inner HTML of each of its children.
-/

namespace Highlighter

/-! ## Nodes that are alike -/

/-- Two nodes of one kind with the same value and the same attributes, of which both have children or neither has. -/
structure Node.Alike (first second : Node) : Prop where
  kind : first.kind = second.kind
  value : first.value? = second.value?
  attributes : first.attributes = second.attributes
  childless : (first.children?.getD []).isEmpty = (second.children?.getD []).isEmpty

theorem Node.Alike.symm {first second : Node} (h : first.Alike second) : second.Alike first :=
  ⟨h.kind.symm, h.value.symm, h.attributes.symm, h.childless.symm⟩

theorem Node.alike_withChildren {node : Node} {children : List Node}
    (h : children.isEmpty = (node.children?.getD []).isEmpty) : (node.withChildren children).Alike node := by
  cases node with
  | text value position => exact ⟨rfl, rfl, rfl, rfl⟩
  | highlight value own position => exact ⟨rfl, rfl, rfl, h⟩
  | element kind value attributes own position => exact ⟨rfl, rfl, rfl, h⟩

theorem Node.kind_withChildren (node : Node) (children : List Node) : (node.withChildren children).kind = node.kind := by
  cases node <;> rfl

/-- A node has the children that it is given, unless it is a text that is given some. -/
theorem Node.children?_getD_withChildren {node : Node} {children : List Node}
    (h : children.isEmpty = (node.children?.getD []).isEmpty) :
    (node.withChildren children).children?.getD [] = children := by
  cases node with
  | text value position => exact (List.isEmpty_iff.mp h).symm
  | highlight value own position => rfl
  | element kind value attributes own position => rfl

namespace Renderer

variable (renderer : Renderer)

/-! ## Handlers -/

theorem mem_of_handler? {renderer : Renderer} {kind : String} {handler : Handler}
    (h : renderer.handler? kind = some handler) : (kind, handler) ∈ renderer.handlers := by
  obtain ⟨before, after, heq, -⟩ := List.lookup_eq_some_iff.mp h
  rw [heq]
  exact List.mem_append_right _ (List.mem_cons_self ..)

@[simp] theorem handler?_register_self (kind : String) (handler : Handler) :
    (renderer.register kind handler).handler? kind = some handler := by
  rw [handler?, register, List.lookup_cons_self]

/-- A handler that is registered says nothing about other kinds. -/
theorem handler?_register_of_ne {kind other : String} (h : other ≠ kind) (handler : Handler) :
    (renderer.register kind handler).handler? other = renderer.handler? other := by
  -- Taking out the handlers of a kind leaves the first one of any other kind where it is.
  have hfilter : ∀ handlers : List (String × Handler),
      (handlers.filter (·.1 ≠ kind)).lookup other = handlers.lookup other := by
    intro handlers
    induction handlers with
    | nil => rfl
    | cons entry handlers ih =>
      by_cases hentry : entry.1 = kind
      · have hother : (other == entry.1) = false := by simpa [hentry] using h
        rw [List.filter_cons_of_neg (by simpa using hentry), ih, List.lookup_cons, hother]
      · rw [List.filter_cons_of_pos (by simpa using hentry), List.lookup_cons, List.lookup_cons, ih]
  have hother : (other == kind) = false := by simpa using h
  rw [handler?, register, List.lookup_cons, hother]
  exact hfilter renderer.handlers

/-! ## Siblings -/

/-- The HTML of the children of a node. -/
def inner (node : Node) : String := renderer.renderAll (node.children?.getD [])

@[simp] theorem renderAll_nil : renderer.renderAll [] = "" := by
  rw [renderAll]

@[simp] theorem renderAll_cons (node : Node) (nodes : List Node) :
    renderer.renderAll (node :: nodes) = renderer.render node ++ renderer.renderAll nodes := by
  rw [renderAll]

@[simp] theorem renderAll_append (xs ys : List Node) :
    renderer.renderAll (xs ++ ys) = renderer.renderAll xs ++ renderer.renderAll ys := by
  induction xs with
  | nil => simp
  | cons x xs ih => simp [ih, String.append_assoc]

theorem inner_of_children? {node : Node} {children : List Node} (h : node.children? = some children) :
    renderer.inner node = renderer.renderAll children := by
  rw [inner, h, Option.getD_some]

@[simp] theorem renderCells_nil (tag : String) : renderer.renderCells tag [] = "" := by
  rw [renderCells]

@[simp] theorem renderCells_cons (tag : String) (node : Node) (nodes : List Node) :
    renderer.renderCells tag (node :: nodes) =
      cell tag (renderer.inner node) ++ renderer.renderCells tag nodes := by
  cases node with
  | text value position => rw [renderCells, inner, Node.children?, Option.getD_none, renderAll_nil]
  | highlight value children position => rw [renderCells, inner, Node.children?, Option.getD_some]
  | element kind value attributes children position =>
    rw [renderCells, inner, Node.children?, Option.getD_some]

/-! ## Nodes -/

theorem render_of_handler? (node : Node) {handler : Handler} (h : renderer.handler? node.kind = some handler) :
    renderer.render node = handler node (renderer.inner node) := by
  cases node with
  | text value position =>
    rw [render, show renderer.handler? "text" = some handler from h, inner, Node.children?, Option.getD_none,
      renderAll_nil]
  | highlight value children position =>
    rw [render, show renderer.handler? "highlight" = some handler from h, inner, Node.children?, Option.getD_some]
  | element kind value attributes children position =>
    rw [render, show renderer.handler? kind = some handler from h, inner, Node.children?, Option.getD_some]

theorem render_text {renderer : Renderer} (h : renderer.handler? "text" = none) (value : String)
    (position : Option Position) : renderer.render (.text value position) = Html.escapeText value := by
  rw [render, h]

theorem render_highlight {renderer : Renderer} (h : renderer.handler? "highlight" = none) (value : String)
    (children : List Node) (position : Option Position) :
    renderer.render (.highlight value children position) =
      fallback value (!children.isEmpty) (renderer.renderAll children) := by
  rw [render, h]

theorem render_tableRow {renderer : Renderer} (h : renderer.handler? "tableRow" = none) (value : Option String)
    (attributes : Attributes) (children : List Node) (position : Option Position) :
    renderer.render (.element "tableRow" value attributes children position) =
      "<tr>\n" ++ renderer.renderCells (cellTag attributes) children ++ "</tr>\n" := by
  rw [render, h]
  exact if_pos rfl

theorem render_element {renderer : Renderer} {kind : String} (h : renderer.handler? kind = none)
    (hrow : kind ≠ "tableRow") (value : Option String) (attributes : Attributes) (children : List Node)
    (position : Option Position) :
    renderer.render (.element kind value attributes children position) =
      (renderer.builtIn? kind (value.getD "") attributes (renderer.renderAll children)).getD
        (fallback (value.getD "") (!children.isEmpty) (renderer.renderAll children)) := by
  rw [render, h]
  exact if_neg hrow

/-- What is written for a node without a handler: a table row becomes cells, another kind takes its form, and what has no
form is written as all unknown kinds are. -/
theorem render_of_not_handler? (node : Node) (h : renderer.handler? node.kind = none) :
    renderer.render node =
      if node.kind = "tableRow" then
        "<tr>\n" ++ renderer.renderCells (cellTag node.attributes) (node.children?.getD []) ++ "</tr>\n"
      else
        (renderer.builtIn? node.kind (node.value?.getD "") node.attributes (renderer.inner node)).getD
          (fallback (node.value?.getD "") (!(node.children?.getD []).isEmpty) (renderer.inner node)) := by
  cases node with
  | text value position =>
    -- Neither a text nor a highlight is a row, and neither of them has a form of its own.
    rw [render_text h, if_neg (by simp [Node.kind])]
    rfl
  | highlight value children position =>
    rw [render_highlight h, if_neg (by simp [Node.kind])]
    rfl
  | element kind value attributes children position =>
    by_cases hrow : kind = "tableRow"
    · subst hrow
      rw [render_tableRow h]
      rfl
    · exact (render_element h hrow ..).trans (if_neg hrow).symm

/-- Whether a node is a table row that writes the tags of its cells. -/
def makesCells (node : Node) : Bool := node.kind == "tableRow" && (renderer.handler? node.kind).isNone

theorem kind_of_makesCells {renderer : Renderer} {node : Node} (h : renderer.makesCells node = true) :
    node.kind = "tableRow" :=
  eq_of_beq (Bool.and_eq_true_iff.mp h).1

/-- Two renderers write two nodes alike if the nodes are, and what is below them is written alike. -/
theorem render_eq_of_alike {first second : Renderer} {a b : Node} (hraw : first.allowHtml = second.allowHtml)
    (halike : a.Alike b) (hhandler : first.handler? a.kind = second.handler? b.kind)
    (hwritten : ∀ handler, first.handler? a.kind = some handler → ∀ html, handler a html = handler b html)
    (hinner : first.makesCells a = false → first.inner a = second.inner b)
    (hcells : first.makesCells a = true → ∀ tag,
      first.renderCells tag (a.children?.getD []) = second.renderCells tag (b.children?.getD [])) :
    first.render a = second.render b := by
  cases hkind : first.handler? a.kind with
  | some handler =>
    -- A handler writes the node, and a row with a handler makes no cells.
    have hnotrow : first.makesCells a = false := by simp [makesCells, hkind]
    rw [render_of_handler? _ a hkind, render_of_handler? _ b (hhandler ▸ hkind), hwritten handler hkind,
      hinner hnotrow]
  | none =>
    -- Without a handler the node is written from its parts, which are alike.
    rw [render_of_not_handler? _ a hkind, render_of_not_handler? _ b (hhandler ▸ hkind), ← halike.kind,
      ← halike.value, ← halike.attributes, ← halike.childless]
    by_cases hrow : a.kind = "tableRow"
    · rw [if_pos hrow, if_pos hrow, hcells (by simp [makesCells, hrow ▸ hkind, hrow])]
    · -- A form looks at its renderer for raw HTML only.
      have hforms : first.builtIn? = second.builtIn? := by
        funext kind value attributes children
        simp only [builtIn?, hraw]
      rw [if_neg hrow, if_neg hrow, hforms, hinner (by simp [makesCells, hrow])]

end Renderer

end Highlighter
