import Highlighter.Markdown.Source

/-!
# The start of a line

A cursor moves over the indentation and the container markers at the start of a line. Indentation is counted
in columns; a tab reaches to the next multiple of four, and may be used up in part.

Containers that stay open over several lines claim the start of each of their lines: a quote its marker, a list
item and a footnote their indentation.
-/

namespace Highlighter.Markdown

/-- A place in the start of a line. -/
structure Cursor where
  index : Nat
  /-- Where the columns of the next tab are counted from. -/
  tabStart : Nat
  /-- Columns that are left of the tab before the index. -/
  spare : Nat
deriving Inhabited

/-- A block that stays open over several lines and holds other blocks. -/
inductive Container where
  | quote
  /-- A list; the marker tells kinds of lists apart, the number is that of the first item. -/
  | list (tight : Bool) (marker : Char) (start : Nat)
  /-- A list item, with the indentation of its content. -/
  | item (indent : Nat)
  | footnote (label : String)
deriving Inhabited

namespace Cursor

/-- The cursor at the start of a line. -/
def atStart (index : Nat) : Cursor := ⟨index, index, 0⟩

/-- Takes columns of indentation one character after another, and tells how many are missing. -/
def takeIndent (source : Source) (columns : Nat) (cursor : Cursor) : Nat × Cursor :=
  match columns with
  | 0 => (0, cursor)
  | columns + 1 =>
    match source.at? cursor.index with
    | some ' ' => takeIndent source columns { cursor with index := cursor.index + 1 }
    | some '\t' =>
      let width := 4 - (cursor.index - cursor.tabStart) % 4
      let taken := min width (columns + 1)
      takeIndent source (columns + 1 - taken) ⟨cursor.index + 1, cursor.index + 1, width - taken⟩
    | _ => (columns + 1, cursor)
termination_by columns
decreasing_by all_goals omega

/-- Takes columns of indentation, those left of a tab first, and tells how many are missing. -/
def takeColumns (source : Source) (columns : Nat) (cursor : Cursor) : Nat × Cursor :=
  let taken := min cursor.spare columns
  takeIndent source (columns - taken) { cursor with spare := cursor.spare - taken }

/-- Takes so many columns of indentation if they are all there. Else the cursor is behind what there is. -/
def takeExactly (source : Source) (columns : Nat) (cursor : Cursor) : Bool × Cursor :=
  let (missing, cursor) := cursor.takeColumns source columns
  (missing == 0, cursor)

/-- Takes columns of indentation up to a bound, and tells how many. -/
def takeUpTo (source : Source) (bound : Nat) (cursor : Cursor) : Nat × Cursor :=
  let (missing, cursor) := cursor.takeColumns source bound
  (bound - missing, cursor)

/-- Passes over all spaces and tabs. -/
def skipAll (source : Source) (cursor : Cursor) : Cursor :=
  { cursor with index := source.skipWhile (fun c => c == ' ' || c == '\t') cursor.index, spare := 0 }

/-- Whether the line ends here. -/
def atLineEnd (source : Source) (cursor : Cursor) : Bool :=
  match source.at? cursor.index with
  | none => true
  | some c => c == '\n' || c == '\r'

/-- Takes the marker of a quote and one column after it. -/
def takeQuote? (source : Source) (cursor : Cursor) : Option Cursor :=
  if source.hasAt cursor.index '>' then
    some ({ cursor with index := cursor.index + 1 }.takeColumns source 1).2
  else none

/-- Takes what a container claims of the line, if the line goes on with it. -/
def enter? (source : Source) (cursor : Cursor) : Container → Option Cursor
  | .quote => (cursor.takeColumns source 3).2.takeQuote? source
  | .list .. => some cursor
  | .item indent => claim indent
  | .footnote _ => claim 4
where
  /-- A blank line needs no indentation. -/
  claim (columns : Nat) : Option Cursor :=
    let (complete, after) := cursor.takeExactly source columns
    if complete || after.atLineEnd source then some after else none

/-- Takes what open containers claim of the line, from the outside in, up to the first one that the line
does not go on with, and tells how many it does go on with. -/
def enterAll (source : Source) (cursor : Cursor) : List Container → Nat × Cursor
  | [] => (0, cursor)
  | container :: containers =>
    match cursor.enter? source container with
    | none => (0, cursor)
    | some cursor =>
      let (entered, cursor) := cursor.enterAll source containers
      (entered + 1, cursor)

end Cursor

/-- A source with the containers that are open, from the outside in. -/
structure Setting where
  source : Source
  containers : List Container
  /-- Whether the text stands in a table. -/
  inTable : Bool

namespace Setting

/-- The start of a line behind what the containers claim of it, and whether it goes on with all of them. -/
def enterLine (setting : Setting) (index : Nat) : Bool × Cursor :=
  let (entered, cursor) := (Cursor.atStart index).enterAll setting.source setting.containers
  (entered == setting.containers.length, cursor)

/-- Passes over what the containers claim of a line. -/
def skipClaims (setting : Setting) (index : Nat) : Nat := (setting.enterLine index).2.index

end Setting

end Highlighter.Markdown
