import Highlighter.Proofs.Document.Descendants
import Highlighter.Walk

/-!
# Walks that replace texts

A rule tells for each text, from a state, which nodes take its place. The visitor that follows a rule puts
these nodes in and skips them. Main statement: such a walk ends within the size of the tree, and leaves what the
rule makes of the texts one by one, from left to right, in a recursion over the tree as it was.

The list of siblings grows and shrinks under the walk, so an index says little by itself. All statements
about it are therefore made for siblings `before ++ after` at the index `before.length`: the walk is
done with the front, and has not touched the back.
-/

namespace Highlighter

/-- A node put in the place of a child behind `before` stands there, and the siblings around it stay. -/
theorem replaceChild_append (before after nodes : List Node) (node : Node) :
    replaceChild (before ++ node :: after) before.length nodes =
      .silent (nodes.length, before ++ nodes ++ after) := by
  simp [replaceChild]

namespace Walk

/-! ## Steps of a walk -/

section Steps

variable {σ : Type} {visitor : Visitor σ} (budget : Nat) (state : σ)

theorem siblings_of_length_le {nodes : List Node} {index : Nat} (h : nodes.length ≤ index) :
    siblings visitor (budget + 1) state nodes index = some (state, nodes) := by
  simp [siblings, List.getElem?_eq_none h]

/-- At a text, the walk does what the visitor tells it. -/
theorem siblings_text (before after : List Node) (value : String) (position : Option Position) :
    siblings visitor (budget + 1) state (before ++ .text value position :: after) before.length =
      let visit := visitor state (before ++ .text value position :: after) before.length
      siblings visitor budget visit.state visit.siblings (visit.resume.index before.length) := by
  have hget : (before ++ .text value position :: after)[before.length]? = some (.text value position) := by simp
  simp only [siblings, hget, Node.children?]

/-- At a node with children, the walk has an empty front of its own among these. What it makes of them is put back into the
node, which then joins the front. -/
theorem siblings_parent {state between : σ} {node : Node} {children kept : List Node} (h : node.children? = some children)
    (hinner : siblings visitor budget state children 0 = some (between, kept)) (before after : List Node) :
    siblings visitor (budget + 1) state (before ++ node :: after) before.length =
      siblings visitor budget between (before ++ [node.withChildren kept] ++ after)
        (before ++ [node.withChildren kept]).length := by
  have hget : (before ++ node :: after)[before.length]? = some node := by simp
  simp only [siblings, hget, h, hinner]
  simp

end Steps

/-- A rule for replacing texts. From its state, the index at which the walk meets a text, and the text, it
gives a new state, and the nodes that take the place of the text if it is to be replaced. -/
abbrev Rule (σ : Type) := σ → Nat → String → Option Position → σ × Option (List Node)

namespace Rule

variable {σ : Type} (rule : Rule σ)

/-! ## The visitor and the recursion of a rule -/

/-- The visitor that follows a rule, and skips what it has put in. -/
def visitor : Visitor σ := fun state siblings index =>
  match siblings[index]? with
  | some (.text value position) =>
    match rule state index value position with
    | (state, none) => ⟨state, siblings, .next⟩
    | (state, some nodes) =>
      let (inserted, siblings) := (replaceChild siblings index nodes).value
      ⟨state, siblings, .skipTo (index + inserted)⟩
  | _ => ⟨state, siblings, .next⟩

/-- What stands in the place of a text that is met at an index. -/
def nodesFor (state : σ) (index : Nat) (value : String) (position : Option Position) : List Node :=
  (rule state index value position).2.getD [.text value position]

mutual

/-- What a rule makes of the texts below a node. -/
def rewriteBelow (state : σ) : Node → σ × Node
  | .text value position => (state, .text value position)
  | .highlight value children position =>
    let rewritten := rewriteAmong state 0 children
    (rewritten.1, .highlight value rewritten.2 position)
  | .element kind value attributes children position =>
    let rewritten := rewriteAmong state 0 children
    (rewritten.1, .element kind value attributes rewritten.2 position)

/-- What a rule makes of the texts among and below siblings of which the first is met at an index. -/
def rewriteAmong (state : σ) (index : Nat) : List Node → σ × List Node
  | [] => (state, [])
  | .text value position :: nodes =>
    let inserted := rule.nodesFor state index value position
    let rest := rewriteAmong (rule state index value position).1 (index + inserted.length) nodes
    (rest.1, inserted ++ rest.2)
  | node :: nodes =>
    let rewritten := rewriteBelow state node
    let rest := rewriteAmong rewritten.1 (index + 1) nodes
    (rest.1, rewritten.2 :: rest.2)

end

theorem rewriteBelow_of_children? (state : σ) {node : Node} {children : List Node}
    (h : node.children? = some children) :
    rule.rewriteBelow state node =
      ((rule.rewriteAmong state 0 children).1,
        node.withChildren (rule.rewriteAmong state 0 children).2) := by
  cases node with
  | text value position => simp [Node.children?] at h
  | highlight value own position =>
    obtain rfl : own = children := by simpa [Node.children?] using h
    simp only [rewriteBelow, Node.withChildren]
  | element kind value attributes own position =>
    obtain rfl : own = children := by simpa [Node.children?] using h
    simp only [rewriteBelow, Node.withChildren]

theorem rewriteAmong_of_children? (state : σ) (index : Nat) {node : Node}
    {children nodes : List Node}
    (h : node.children? = some children) :
    rule.rewriteAmong state index (node :: nodes) =
      let inner := rule.rewriteAmong state 0 children
      let rest := rule.rewriteAmong inner.1 (index + 1) nodes
      (rest.1, node.withChildren inner.2 :: rest.2) := by
  have hbelow := rule.rewriteBelow_of_children? state h
  cases node with
  | text value position => simp [Node.children?] at h
  | highlight value own position => simp only [rewriteAmong, hbelow]
  | element kind value attributes own position => simp only [rewriteAmong, hbelow]

/-! ## One visit -/

/-- A visit puts the nodes for the text in its place, and sends the walk on right behind them. -/
theorem visitor_append (state : σ) (before after : List Node) (value : String)
    (position : Option Position) :
    let visit := rule.visitor state (before ++ .text value position :: after) before.length
    let inserted := rule.nodesFor state before.length value position
    visit.state = (rule state before.length value position).1 ∧
      visit.siblings = before ++ inserted ++ after ∧
      visit.resume.index before.length = (before ++ inserted).length := by
  have hget : (before ++ .text value position :: after)[before.length]? =
      some (.text value position) := by simp
  simp only [visitor, nodesFor, hget]
  rcases rule state before.length value position with ⟨next, _ | nodes⟩
  · simp [Resume.index]
  · simp [replaceChild_append, Logged.silent, Resume.index]

/-! ## The whole walk -/

theorem size_of_children? {node : Node} {children : List Node} (h : node.children? = some children) :
    node.size = 1 + Node.sizes children := by
  cases node <;> simp_all [Node.children?, Node.size]

/-- From behind the front on, a walk that follows a rule rewrites the siblings that are left. The budget need
only exceed the number of nodes that are left, for each step leaves one of them behind. -/
theorem siblings_append (budget : Nat) (state : σ) (before after : List Node)
    (hbudget : Node.sizes after < budget) :
    siblings rule.visitor budget state (before ++ after) before.length =
      some ((rule.rewriteAmong state before.length after).1,
        before ++ (rule.rewriteAmong state before.length after).2) := by
  induction budget generalizing state before after with
  | zero => omega
  | succ budget ih =>
    cases after with
    | nil =>
      rw [List.append_nil, siblings_of_length_le budget state (Nat.le_refl _)]
      simp [rewriteAmong]
    | cons node after =>
      simp only [Node.sizes] at hbudget
      cases hchildren : node.children? with
      | none =>
        -- The node is a text: after the visit the front has grown by what was put in.
        obtain ⟨value, position, rfl⟩ := Node.eq_text_of_children? hchildren
        obtain ⟨hstate, hsiblings, hresume⟩ := rule.visitor_append state before after value position
        have hsize : Node.sizes after < budget := by
          simp only [Node.size] at hbudget
          omega
        rw [siblings_text]
        simp only [hstate, hsiblings, hresume, ih _ _ _ hsize, rewriteAmong]
        simp
      | some children =>
        -- The children are rewritten first, and the state they leave is carried to the siblings behind.
        have hsize := size_of_children? hchildren
        have hinner := ih state [] children (by omega)
        have hrest := ih (rule.rewriteAmong state 0 children).1
          (before ++ [node.withChildren (rule.rewriteAmong state 0 children).2]) after (by omega)
        simp only [List.nil_append, List.length_nil] at hinner
        rw [siblings_parent budget hchildren hinner, hrest, rule.rewriteAmong_of_children? _ _ hchildren]
        simp

/-- A walk that follows a rule ends within the size of the tree, and rewrites the texts below its root. -/
theorem texts_visitor {budget : Nat} (state : σ) (tree : Node) (hbudget : tree.size ≤ budget) :
    texts rule.visitor budget state tree =
      some ⟨rule.rewriteBelow state tree, if tree.isText then [.childlessRoot] else []⟩ := by
  cases hchildren : tree.children? with
  | none =>
    obtain ⟨value, position, rfl⟩ := Node.eq_text_of_children? hchildren
    simp [texts, Node.children?, rewriteBelow, Node.isText]
  | some children =>
    have hsize := size_of_children? hchildren
    have hwalk := rule.siblings_append budget state [] children (by omega)
    have htext := Node.isText_of_children? hchildren
    simp only [List.nil_append, List.length_nil] at hwalk
    simp [texts, hchildren, hwalk, htext, rule.rewriteBelow_of_children? _ hchildren, Logged.silent]

end Rule

end Walk

end Highlighter
