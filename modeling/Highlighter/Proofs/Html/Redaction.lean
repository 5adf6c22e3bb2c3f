import Highlighter.Proofs.Html.Expansion

/-!
# Raw HTML that is left out

A renderer that leaves raw HTML out should not show it in any other way. Main statement: of two trees that differ in raw HTML
and in positions only, such a renderer writes the same.

What belongs to an element of raw HTML is its value, its attributes and its children. One exception are the children of raw
HTML in a table row: a row shows what is below its cells, whatever the cells are, so these children are shown, and the
trees have to agree in them.
-/

namespace Highlighter

namespace Node

/-! ## Trees without raw HTML and positions -/

mutual

/-- A node without raw HTML and positions. Raw HTML that is a cell keeps its children. -/
def redact (cell : Bool) : Node → Node
  | .text value _ => .text value none
  | .highlight value children _ => .highlight value (redactAll false children) none
  | .element kind value attributes children _ =>
    if kind = "html" then .element "html" none .empty (if cell then redactAll false children else []) none
    else .element kind value attributes (redactAll (kind == "tableRow") children) none

/-- Siblings without raw HTML and positions. -/
def redactAll (cell : Bool) : List Node → List Node
  | [] => []
  | node :: nodes => redact cell node :: redactAll cell nodes

end

/-- A tree without raw HTML and positions. -/
def redacted (tree : Node) : Node := redact false tree

theorem redact_of_html {node : Node} (h : node.kind = "html") (cell : Bool) :
    redact cell node =
      .element "html" none .empty (if cell then redactAll false (node.children?.getD []) else []) none := by
  cases node with
  | text value position => simp [kind] at h
  | highlight value children position => simp [kind] at h
  | element kind value attributes children position =>
    obtain rfl : kind = "html" := h
    rfl

theorem children?_redact_of_ne {node : Node} (h : node.kind ≠ "html") (cell : Bool) :
    (redact cell node).children?.getD [] = redactAll (node.kind == "tableRow") (node.children?.getD []) := by
  cases node with
  | text value position => rfl
  | highlight value children position => rfl
  | element kind value attributes children position =>
    rw [redact, if_neg (by exact h)]
    rfl

/-- A cell keeps its children, whatever it is. -/
theorem exists_redactAll_of_cell (node : Node) :
    ∃ own, (redact true node).children?.getD [] = redactAll own (node.children?.getD []) := by
  by_cases h : node.kind = "html"
  · refine ⟨false, ?_⟩
    rw [redact_of_html h]
    rfl
  · exact ⟨_, children?_redact_of_ne h true⟩

/-- A node that is not raw HTML stays what it is. -/
theorem alike_redact {node : Node} (h : node.kind ≠ "html") (cell : Bool) : (redact cell node).Alike node := by
  have hempty : ∀ own (nodes : List Node), (redactAll own nodes).isEmpty = nodes.isEmpty := by
    intro own nodes
    cases nodes <;> rfl
  have hchildless : ((redact cell node).children?.getD []).isEmpty = (node.children?.getD []).isEmpty := by
    rw [children?_redact_of_ne h, hempty]
  cases node with
  | text value position => exact ⟨rfl, rfl, rfl, hchildless⟩
  | highlight value children position => exact ⟨rfl, rfl, rfl, hchildless⟩
  | element kind value attributes children position =>
    rw [redact, if_neg (by exact h)] at hchildless ⊢
    exact ⟨rfl, rfl, rfl, hchildless⟩

end Node

namespace Renderer

open Node

variable (style : String)

/-! ## What is written of them -/

theorem render_html {node : Node} (h : node.kind = "html") : (highlighting style false).render node = "" := by
  have hhandler : (highlighting style false).handler? node.kind = none := by
    rw [handler?_highlighting, if_neg (by simp [h])]
  rw [render_of_not_handler? _ node hhandler, if_neg (by simp [h]), h]
  rfl

/-- A node is written as it was if its children, and the cells that they make, are. -/
theorem render_redact {node : Node} (cell : Bool)
    (hchildren : ∀ own, (highlighting style false).renderAll (redactAll own (node.children?.getD [])) =
      (highlighting style false).renderAll (node.children?.getD []))
    (hcells : ∀ tag, (highlighting style false).renderCells tag (redactAll true (node.children?.getD [])) =
      (highlighting style false).renderCells tag (node.children?.getD [])) :
    (highlighting style false).render (redact cell node) = (highlighting style false).render node := by
  by_cases hhtml : node.kind = "html"
  · -- Raw HTML is left out, so its node is not looked at.
    rw [render_html style hhtml, redact_of_html hhtml, render_html style rfl]
  · have halike := alike_redact hhtml cell
    refine render_eq_of_alike rfl halike (by rw [halike.kind]) ?_ ?_ ?_
    · -- The handler for highlights does not look at them.
      intro handler hhandler html
      rw [styled_of_handler? style false hhandler]
      rfl
    · -- Outside rows the children are written as what is left of them.
      intro _
      rw [inner, inner, children?_redact_of_ne hhtml]
      exact hchildren _
    · -- In a row they are cells.
      intro hrow tag
      rw [children?_redact_of_ne hhtml, ← halike.kind, kind_of_makesCells hrow]
      exact hcells tag

theorem renderAll_redactAll (nodes : List Node) :
    (∀ cell, (highlighting style false).renderAll (redactAll cell nodes) =
        (highlighting style false).renderAll nodes) ∧
      ∀ tag, (highlighting style false).renderCells tag (redactAll true nodes) =
        (highlighting style false).renderCells tag nodes := by
  induction nodes using Node.siblingInduction with
  | nil => simp [redactAll]
  | cons node nodes ihbelow ihnodes =>
    refine ⟨fun cell => ?_, fun tag => ?_⟩
    · rw [redactAll, renderAll_cons, renderAll_cons, render_redact style cell ihbelow.1 ihbelow.2, ihnodes.1]
    · -- A cell shows what is below it, whatever it is.
      obtain ⟨own, hbelow⟩ := exists_redactAll_of_cell node
      rw [redactAll, renderCells_cons, renderCells_cons, inner, hbelow, ihbelow.1, ihnodes.2, inner]

theorem render_redacted (tree : Node) :
    (highlighting style false).render tree.redacted = (highlighting style false).render tree := by
  have hall := (renderAll_redactAll style [tree]).1 false
  simpa [redactAll, redacted] using hall

/-- **Raw HTML does not leak.** Two trees that are the same without raw HTML and positions are written alike by a renderer that
leaves raw HTML out and knows highlights only. -/
theorem render_eq_of_redacted {first second : Node} (h : first.redacted = second.redacted) :
    (highlighting style false).render first = (highlighting style false).render second := by
  rw [← render_redacted, h, render_redacted]

/-- A tree with raw HTML among blocks, in a highlight, and as a cell of a row, which holds a row of its own. -/
def scriptedTree (script : String) (attributes : Attributes) (below : List Node) (position : Option Position) : Node :=
  .element "root" none .empty
    [.element "html" (some script) attributes below position,
      .highlight "a" [.text "a" position, .element "html" (some script) attributes [] none] position,
      .element "tableRow" none .empty
        [.element "html" (some script) attributes
          [.text "b" position, .element "html" (some script) attributes below none] none,
          .element "tableRow" none .empty [.element "html" (some script) attributes [.text "c" none] position] none]
        position] position

theorem render_eq_of_redacted_scriptedTree :
    let position := some (⟨⟨1, 1, 0⟩, ⟨1, 2, 1⟩⟩ : Position)
    let first := scriptedTree "<script>" .empty [] none
    let second := scriptedTree "</p>" (Attributes.empty.insert "url" (.text "u")) [.text "d" none] position
    first.redacted = second.redacted ∧
      (highlighting "\">" false).render first = (highlighting "\">" false).render second := by
  intro position first second
  have h : first.redacted = second.redacted := by decide
  exact ⟨h, render_eq_of_redacted "\">" h⟩

end Renderer

end Highlighter
