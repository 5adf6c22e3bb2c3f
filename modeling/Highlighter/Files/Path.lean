/-!
# Paths

A path is kept as it is written: names with slashes between them. It begins at the root if it begins with a
slash. An empty name and a single dot stay where they are, two dots lead back.
-/

namespace Highlighter

/-- A path as it is written. -/
structure Path where
  text : String
deriving DecidableEq, Repr, Inhabited

namespace Path

/-! ## Names -/

/-- The pieces of a text between its slashes. -/
def pieces : List Char → List (List Char)
  | [] => [[]]
  | c :: text =>
    if c = '/' then [] :: pieces text
    else
      match pieces text with
      | [] => [[c]]
      | piece :: more => (c :: piece) :: more

/-- Puts pieces together with slashes between them. -/
def unite : List (List Char) → List Char
  | [] => []
  | [piece] => piece
  | piece :: more => piece ++ '/' :: unite more

theorem pieces_ne_nil (text : List Char) : pieces text ≠ [] := by
  cases text with
  | nil => simp [pieces]
  | cons c text =>
    unfold pieces
    split
    · simp
    · split <;> simp

/-- The names of a path in order, empty ones included. -/
def names (path : Path) : List String := (pieces path.text.toList).map String.ofList

/-- Whether a path begins at the root. -/
def isAbsolute (path : Path) : Bool := path.text.toList.head? == some '/'

/-! ## Parents -/

/-- A piece that stays where it is. -/
def isTrivial (piece : List Char) : Bool := piece == [] || piece == ['.']

/-- Leaves out the trivial pieces at the end. -/
def dropTrivialEnd (parts : List (List Char)) : List (List Char) :=
  (parts.reverse.dropWhile isTrivial).reverse

/-- The part of a path that is no name: the slash of the root, or a dot that begins a relative path. -/
def lead : List Char → List Char × List Char
  | '/' :: text => (['/'], text)
  | ['.'] => (['.'], [])
  | '.' :: '/' :: text => (['.'], '/' :: text)
  | text => ([], text)

/-- The path without its last name. The root and the empty path have none. -/
def parent? (path : Path) : Option Path :=
  let (front, body) := lead path.text.toList
  match (dropTrivialEnd (pieces body)).reverse with
  | [] => if front = ['.'] then some ⟨""⟩ else none
  | _ :: before => some ⟨String.ofList (front ++ unite (dropTrivialEnd before.reverse))⟩

/-- The path of a name in the directory that a path leads to. -/
def join (path : Path) (name : String) : Path :=
  match path.text.toList.getLast? with
  | none => ⟨name⟩
  | some '/' => ⟨path.text ++ name⟩
  | some _ => ⟨path.text ++ "/" ++ name⟩

end Path

end Highlighter
