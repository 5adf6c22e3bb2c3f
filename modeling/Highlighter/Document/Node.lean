import Highlighter.Document.Attributes
import Highlighter.Source.Position

/-!
# Document tree

A node is a run of text, a highlighted span, or an element of any other kind. Only texts and highlights
mean something to the highlight pass; the kind of an element is a name that it never looks at.
-/

namespace Highlighter

/-- A node of the document tree. -/
inductive Node where
  /-- A run of text. -/
  | text (value : String) (position : Option Position)
  /-- A highlighted span; what is shown are its children. -/
  | highlight (value : String) (children : List Node) (position : Option Position)
  /-- A node of any other kind. -/
  | element (kind : String) (value : Option String) (attributes : Attributes)
      (children : List Node) (position : Option Position)

namespace Node

instance : Inhabited Node := ⟨.text "" none⟩

/-! ## Making nodes -/

/-- A highlighted span whose one child repeats its value. Only the span itself is positioned. -/
def span (value : String) (position : Option Position) : Node :=
  .highlight value [.text value none] position

/-- An element that has nothing but its kind. -/
def bare (kind : String) (position : Option Position) : Node :=
  .element kind none .empty [] position

/-! ## Looking at nodes -/

/-- The name of the kind of a node. -/
def kind : Node → String
  | .text .. => "text"
  | .highlight .. => "highlight"
  | .element kind .. => kind

/-- Whether a node is a run of text. -/
def isText : Node → Bool
  | .text .. => true
  | _ => false

/-- The value of a node, if it has one. -/
def value? : Node → Option String
  | .text value _ => some value
  | .highlight value _ _ => some value
  | .element _ value _ _ _ => value

/-- The source range of a node, if it is known. -/
def position? : Node → Option Position
  | .text _ position => position
  | .highlight _ _ position => position
  | .element _ _ _ _ position => position

/-- The children of a node. A text can have none. -/
def children? : Node → Option (List Node)
  | .text .. => none
  | .highlight _ children _ => some children
  | .element _ _ _ children _ => some children

/-- The attributes of a node. Only elements have any. -/
def attributes : Node → Attributes
  | .element _ _ attributes _ _ => attributes
  | _ => .empty

/-- The node with other children. A text stays as it is. -/
def withChildren : Node → List Node → Node
  | .text value position, _ => .text value position
  | .highlight value _ position, children => .highlight value children position
  | .element kind value attributes _ position, children =>
    .element kind value attributes children position

/-- The element with one more attribute; other nodes stay as they are. -/
def withAttribute (name : String) (value : Attribute) : Node → Node
  | .element kind own attributes children position =>
    .element kind own (attributes.insert name value) children position
  | node => node

/-- A node has no children exactly if it is a text. -/
theorem children?_eq_none_iff (node : Node) : node.children? = none ↔ node.isText = true := by
  cases node <;> simp [children?, isText]

/-- The children put into a node that may have some are its children. -/
theorem children?_withChildren (node : Node) (children : List Node) (h : node.isText = false) :
    (node.withChildren children).children? = some children := by
  cases node <;> simp_all [children?, withChildren, isText]

/-! ## Text content -/

mutual

/-- The text that a node stands for. An element without children stands for its value. -/
def textContent : Node → String
  | .text value _ => value
  | .highlight _ children _ => textContents children
  | .element _ value _ [] _ => value.getD ""
  | .element _ _ _ (child :: children) _ => textContents (child :: children)

/-- The text that a list of siblings stands for. -/
def textContents : List Node → String
  | [] => ""
  | node :: nodes => node.textContent ++ textContents nodes

end

/-- Siblings stand for the texts of the parts they are cut into. -/
theorem textContents_append (xs ys : List Node) :
    textContents (xs ++ ys) = textContents xs ++ textContents ys := by
  induction xs with
  | nil => simp [textContents]
  | cons x xs ih => simp [textContents, ih, String.append_assoc]

/-- An element without a value stands for the texts of its children, also if it has none. -/
theorem textContent_element_none (kind : String) (attributes : Attributes) (children : List Node)
    (position : Option Position) :
    (element kind none attributes children position).textContent = textContents children := by
  cases children with
  | nil => simp [textContent, textContents]
  | cons child children => simp only [textContent]

/-! ## Size -/

mutual

/-- The number of nodes of a tree. -/
def size : Node → Nat
  | .text .. => 1
  | .highlight _ children _ => 1 + sizes children
  | .element _ _ _ children _ => 1 + sizes children

/-- The number of nodes of a list of trees. -/
def sizes : List Node → Nat
  | [] => 0
  | node :: nodes => node.size + sizes nodes

end

/-! ## Equality -/

mutual

/-- Decides whether two trees are equal. -/
def decEq : (a b : Node) → Decidable (a = b)
  | .text v p, .text w q => decidable_of_iff (v = w ∧ p = q) (by simp)
  | .highlight v cs p, .highlight w ds q =>
    match decEqList cs ds with
    | isTrue h => decidable_of_iff (v = w ∧ p = q) (by simp [h])
    | isFalse h => isFalse fun heq => h (by injection heq)
  | .element k v as cs p, .element l w bs ds q =>
    match decEqList cs ds with
    | isTrue h => decidable_of_iff (k = l ∧ v = w ∧ as = bs ∧ p = q) (by simp [h])
    | isFalse h => isFalse fun heq => h (by injection heq)
  | .text .., .highlight .. => isFalse nofun
  | .text .., .element .. => isFalse nofun
  | .highlight .., .text .. => isFalse nofun
  | .highlight .., .element .. => isFalse nofun
  | .element .., .text .. => isFalse nofun
  | .element .., .highlight .. => isFalse nofun

/-- Decides whether two lists of trees are equal. -/
def decEqList : (xs ys : List Node) → Decidable (xs = ys)
  | [], [] => isTrue rfl
  | [], _ :: _ => isFalse nofun
  | _ :: _, [] => isFalse nofun
  | x :: xs, y :: ys =>
    match decEq x y, decEqList xs ys with
    | isTrue hx, isTrue hxs => isTrue (by rw [hx, hxs])
    | isFalse hx, _ => isFalse fun h => hx (by injection h)
    | _, isFalse hxs => isFalse fun h => hxs (by injection h)

end

instance : DecidableEq Node := decEq

end Node

end Highlighter
