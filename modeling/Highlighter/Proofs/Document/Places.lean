import Highlighter.Proofs.Document.Descendants

/-!
# Texts in their places

The texts below the root of a tree are counted in document order. A place tells where one of them stands: which siblings are
before it and behind it, and how many texts come before those of its siblings. A tree is filled by putting nodes in the
place of each text, chosen by the number of the text; nothing else of the tree changes.
-/

namespace Highlighter

namespace Node

/-! ## Texts in document order -/

/-- The texts among siblings and below them in document order. -/
def forestTextNodes (nodes : List Node) : List Node := (forestNodes nodes).filter isText

/-- The texts below a node in document order. These are all texts of a tree that have a parent. -/
def textNodes (tree : Node) : List Node := tree.descendants.filter isText

/-- How many texts there are among siblings and below them. -/
def textCount (nodes : List Node) : Nat := (forestTextNodes nodes).length

@[simp] theorem forestTextNodes_nil : forestTextNodes [] = [] := rfl

@[simp] theorem forestTextNodes_text (value : String) (position : Option Position) (nodes : List Node) :
    forestTextNodes (.text value position :: nodes) = .text value position :: forestTextNodes nodes := rfl

@[simp] theorem forestTextNodes_append (xs ys : List Node) :
    forestTextNodes (xs ++ ys) = forestTextNodes xs ++ forestTextNodes ys := by
  simp [forestTextNodes]

theorem forestTextNodes_of_children? {node : Node} {children nodes : List Node}
    (h : node.children? = some children) :
    forestTextNodes (node :: nodes) = forestTextNodes children ++ forestTextNodes nodes := by
  have hnone : ¬node.isText = true := by simp [isText_of_children? h]
  rw [forestTextNodes, forestNodes_cons, descendants_of_children? h, List.cons_append,
    List.filter_cons_of_neg hnone, List.filter_append, forestTextNodes, forestTextNodes]

theorem textNodes_of_children? {tree : Node} {children : List Node} (h : tree.children? = some children) :
    tree.textNodes = forestTextNodes children := by
  rw [textNodes, descendants_of_children? h, forestTextNodes]

@[simp] theorem textCount_nil : textCount [] = 0 := rfl

@[simp] theorem textCount_text (value : String) (position : Option Position) (nodes : List Node) :
    textCount (.text value position :: nodes) = textCount nodes + 1 := rfl

@[simp] theorem textCount_append (xs ys : List Node) : textCount (xs ++ ys) = textCount xs + textCount ys := by
  simp [textCount]

theorem textCount_of_children? {node : Node} {children nodes : List Node} (h : node.children? = some children) :
    textCount (node :: nodes) = textCount children + textCount nodes := by
  simp [textCount, forestTextNodes_of_children? h]

/-! ## Places -/

/-- Where a text stands. -/
structure Place where
  /-- How many texts of the tree come before those of its siblings. -/
  first : Nat
  /-- The siblings before it. -/
  before : List Node
  text : Node
  /-- The siblings behind it. -/
  after : List Node

mutual

/-- The places below a node, if `first` texts come before those below it. -/
def placesBelow (first : Nat) : Node → List Place
  | .text .. => []
  | .highlight _ children _ => placesAmong first [] children
  | .element _ _ _ children _ => placesAmong first [] children

/-- The places among and below siblings that stand behind others. -/
def placesAmong (first : Nat) (before : List Node) : List Node → List Place
  | [] => []
  | .text value position :: nodes =>
    ⟨first, before, .text value position, nodes⟩ ::
      placesAmong first (before ++ [.text value position]) nodes
  | node :: nodes =>
    placesBelow (first + textCount before) node ++ placesAmong first (before ++ [node]) nodes

end

/-- The places of the texts below a node in document order. -/
def places (tree : Node) : List Place := placesBelow 0 tree

theorem placesBelow_of_children? (first : Nat) {node : Node} {children : List Node}
    (h : node.children? = some children) : placesBelow first node = placesAmong first [] children := by
  cases node <;> simp_all [children?, placesBelow]

theorem placesAmong_of_children? (first : Nat) (before : List Node) {node : Node} {children nodes : List Node}
    (h : node.children? = some children) :
    placesAmong first before (node :: nodes) =
      placesAmong (first + textCount before) [] children ++ placesAmong first (before ++ [node]) nodes := by
  have hbelow := placesBelow_of_children? (first + textCount before) h
  cases node with
  | text value position => simp [children?] at h
  | highlight value own position => simp only [placesAmong, hbelow]
  | element kind value attributes own position => simp only [placesAmong, hbelow]

/-- There is one place for each text, in the same order. -/
theorem map_text_placesAmong (first : Nat) (before nodes : List Node) :
    (placesAmong first before nodes).map Place.text = forestTextNodes nodes := by
  induction nodes using forestInduction generalizing first before with
  | nil => simp [placesAmong]
  | text value position nodes ih => simp [placesAmong, ih]
  | parent node children nodes h ihchildren ihnodes =>
    rw [placesAmong_of_children? first before h, List.map_append, ihchildren, ihnodes,
      forestTextNodes_of_children? h]

theorem map_text_places (tree : Node) : tree.places.map Place.text = tree.textNodes := by
  cases h : tree.children? with
  | none =>
    obtain ⟨value, position, rfl⟩ := eq_text_of_children? h
    rfl
  | some children => rw [places, placesBelow_of_children? 0 h, map_text_placesAmong, textNodes_of_children? h]

theorem length_placesAmong (first : Nat) (before nodes : List Node) :
    (placesAmong first before nodes).length = textCount nodes := by
  rw [textCount, ← map_text_placesAmong first before nodes, List.length_map]

/-- Past the texts of some siblings, the places are those of the siblings that are left. -/
theorem drop_placesAmong (first : Nat) (before nodes : List Node) (count : Nat) :
    (placesAmong first before nodes).drop (textCount (nodes.take count)) =
      placesAmong first (before ++ nodes.take count) (nodes.drop count) := by
  induction count generalizing before nodes with
  | zero => simp
  | succ count ih =>
    cases nodes with
    | nil => simp [placesAmong]
    | cons node nodes =>
      cases h : node.children? with
      | none =>
        -- A text is one place, and it is the first one.
        obtain ⟨value, position, rfl⟩ := eq_text_of_children? h
        simp [placesAmong, ih]
      | some children =>
        -- The places in the first sibling are as many as its texts, so that all of them are dropped.
        rw [List.take_succ_cons, textCount_of_children? h, placesAmong_of_children? first before h,
          ← length_placesAmong (first + textCount before) [] children, List.drop_append,
          List.drop_of_length_le (Nat.le_add_right ..), Nat.add_sub_cancel_left, ih]
        simp

/-! ## Filling -/

mutual

/-- A node with other nodes in the place of each text below it, chosen by its number; `first` texts come before. -/
def fillBelow (answer : Nat → List Node) (first : Nat) : Node → Node
  | .text value position => .text value position
  | .highlight value children position => .highlight value (fillAmong answer first children) position
  | .element kind value attributes children position =>
    .element kind value attributes (fillAmong answer first children) position

/-- Siblings with other nodes in the place of each text among and below them. -/
def fillAmong (answer : Nat → List Node) (first : Nat) : List Node → List Node
  | [] => []
  | .text _ _ :: nodes => answer first ++ fillAmong answer (first + 1) nodes
  | node :: nodes => fillBelow answer first node :: fillAmong answer (first + textCount [node]) nodes

end

/-- The tree with other nodes in the place of each text below its root, chosen by its number. -/
def fill (answer : Nat → List Node) (tree : Node) : Node := fillBelow answer 0 tree

section

variable (answer : Nat → List Node)

@[simp] theorem fillAmong_nil (first : Nat) : fillAmong answer first [] = [] := by simp only [fillAmong]

theorem fillBelow_of_children? (first : Nat) {node : Node} {children : List Node}
    (h : node.children? = some children) :
    fillBelow answer first node = node.withChildren (fillAmong answer first children) := by
  cases node <;> simp_all [children?, fillBelow, withChildren]

theorem fillAmong_of_children? (first : Nat) {node : Node} {children nodes : List Node}
    (h : node.children? = some children) :
    fillAmong answer first (node :: nodes) =
      node.withChildren (fillAmong answer first children) ::
        fillAmong answer (first + textCount children) nodes := by
  have hbelow := fillBelow_of_children? answer first h
  have hcount : textCount [node] = textCount children := textCount_of_children? h
  cases node with
  | text value position => simp [children?] at h
  | highlight value own position => simp only [fillAmong, hbelow, hcount]
  | element kind value attributes own position => simp only [fillAmong, hbelow, hcount]

theorem fillAmong_append (first : Nat) (xs ys : List Node) :
    fillAmong answer first (xs ++ ys) =
      fillAmong answer first xs ++ fillAmong answer (first + textCount xs) ys := by
  induction xs generalizing first with
  | nil => simp
  | cons node xs ih =>
    cases h : node.children? with
    | none =>
      -- A text takes one number, so the ones behind it begin one later.
      obtain ⟨value, position, rfl⟩ := eq_text_of_children? h
      simp only [List.cons_append, fillAmong, ih, textCount_text, List.append_assoc]
      congr 3
      omega
    | some children =>
      -- Any other node takes as many numbers as there are texts below it.
      rw [List.cons_append, fillAmong_of_children? answer first h, fillAmong_of_children? answer first h, ih,
        textCount_of_children? h, List.cons_append, Nat.add_assoc]

end

end Node

end Highlighter
