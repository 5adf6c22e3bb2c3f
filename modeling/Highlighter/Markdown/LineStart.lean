import Highlighter.Markdown.LinkParts
import Highlighter.Markdown.RawHtml

/-!
# What a line begins with

Recognises the beginnings of blocks behind the indentation of a line, and tells which of them end a paragraph
that the line would otherwise continue.
-/

namespace Highlighter.Markdown

namespace Source

/-- Passes over a thematic break: three or more stars, hyphens or underscores on a line, with blanks between
them. -/
def thematicBreak? (source : Source) (index : Nat) : Option Nat :=
  match source.at? index with
  | some c =>
    if c = '*' ∨ c = '-' ∨ c = '_' then
      let stop := source.skipWhile (fun d => d == c || d == ' ' || d == '\t') index
      if 3 ≤ (source.slice index stop).count c then source.lineEnd? stop else none
    else none
  | none => none

/-- The depth of a heading that begins with number signs. -/
def headingDepth? (source : Source) (index : Nat) : Option Nat :=
  let depth := source.countRun '#' index
  let closed := match source.at? (index + depth) with
    | none => true
    | some c => isSpace c
  if closed && 1 ≤ depth && depth ≤ 6 then some depth else none

/-- The depth of the heading that a line of equals signs or hyphens makes of the lines before it, and the index
after that line. -/
def underline? (source : Source) (index : Nat) : Option (Nat × Nat) :=
  match source.at? index with
  | some '=' => (source.blankLine? (source.skipWhile (· == '=') index)).map (1, ·)
  | some '-' => (source.blankLine? (source.skipWhile (· == '-') index)).map (2, ·)
  | _ => none

/-- A fence of three or more backticks or tildes: the character and its count. Behind backticks the line may hold
no further backtick. -/
def codeFence? (source : Source) (index : Nat) : Option (Char × Nat) :=
  match source.at? index with
  | some c =>
    if c = '\x60' ∨ c = '~' then
      let count := source.countRun c index
      let rest := source.slice (index + count) (source.nextLine (index + count))
      if count < 3 ∨ (c = '\x60' ∧ rest.contains c) then none else some (c, count)
    else none
  | none => none

/-- Passes over the fence that closes a code block, up to the line end. The end of the source closes it too. -/
def closingFence? (source : Source) (c : Char) (count index : Nat) : Option Nat :=
  if source.size ≤ index then some index
  else
    let fence := source.skipWhile (· == c) index
    let stop := source.skipWhile (· == ' ') fence
    if fence - index < count then none else (source.lineEnd? stop).map fun _ => stop

/-- The digits of an ordered list marker, and the number they write. -/
def listNumber (source : Source) (index : Nat) : Nat × Nat :=
  let digits := source.takeClass Char.isDigit 9 index
  (digits.length, numberOfDigits 10 digits)

/-- The marker of a list item without what follows it: the character that tells lists apart, the number, and
the index behind the marker. -/
def listMarker? (source : Source) (index : Nat) : Option (Char × Nat × Nat) :=
  match source.at? index with
  | some c =>
    if c = '-' ∨ c = '+' ∨ c = '*' then some (c, 0, index + 1)
    else if c.isDigit then
      let (length, number) := source.listNumber index
      match source.at? (index + length) with
      | some '.' => some ('.', number, index + length + 1)
      | some ')' => some (')', number, index + length + 1)
      | _ => none
    else none
  | none => none

/-- Whether two blank lines follow. The end of the source counts as blank lines. -/
def twoBlankLines (source : Source) (index : Nat) : Bool :=
  match source.blankLine? index with
  | none => false
  | some next => (source.blankLine? next).isSome

/-- The number of columns in the delimiter row of a table, and the index after the row. Each column needs a
hyphen, and the row needs a pipe. -/
def delimiterRow? (source : Source) (index : Nat) : Option (Nat × Nat) :=
  let (indent, cursor) := (Cursor.atStart index).takeUpTo source 4
  if indent > 3 then none
  else if source.hasAt cursor.index '|' then columns (cursor.index + 1) 0 false false true
  else columns cursor.index 0 false false false
where
  /-- The columns so far, whether the current one has begun, whether it has a hyphen, and whether there has been
  a pipe. -/
  columns (index count : Nat) (begun hyphen pipe : Bool) : Option (Nat × Nat) :=
    if h : index < source.chars.size then
      match source.lineEnd? index with
      | some after => finish after count begun hyphen pipe
      | none =>
        match source.chars[index] with
        | ' ' => columns (index + 1) count begun hyphen pipe
        | ':' => columns (index + 1) count true hyphen pipe
        | '-' => columns (index + 1) count true true pipe
        | '|' => if hyphen then columns (index + 1) (count + 1) false false true else none
        | _ => none
    else finish index count begun hyphen pipe
  termination_by source.chars.size - index
  /-- The columns at the end of the row. -/
  finish (after count : Nat) (begun hyphen pipe : Bool) : Option (Nat × Nat) :=
    let total := if begun then count + 1 else count
    if pipe && (hyphen || 0 < count) then some (total, after) else none

/-- Counts the pipes of a line that stand behind no backslash, and gives the last one of them and the index after
the line, if there is a next line. -/
def countPipes (source : Source) (index count last : Nat) : Nat × Nat × Option Nat :=
  if h : index < source.chars.size then
    match source.chars[index] with
    | '\\' =>
      if source.hasAt (index + 1) '|' then source.countPipes (index + 2) count last
      else source.countPipes (index + 1) count last
    | '|' => source.countPipes (index + 1) (count + 1) index
    | '\n' => (count, last, some (index + 1))
    | '\r' => (count, last, source.lineEnd? index)
    | _ => source.countPipes (index + 1) count last
  else (count, last, none)
termination_by source.chars.size - index

/-- The number of columns of a table head with so many pipes. A pipe at the start of the line or at its end bounds
no further column. -/
def headColumns (source : Source) (pipes start lastPipe : Nat) : Nat :=
  let inner := if source.hasAt (source.skipBlanks start) '|' then pipes - 1 else pipes
  if (source.blankLine? (lastPipe + 1)).isSome then inner else inner + 1

end Source

namespace Setting

/-- The number of columns and the end of the delimiter row in the line at an index, if the line goes on with all
containers. -/
def delimiterLine? (setting : Setting) (index : Nat) : Option (Nat × Nat) :=
  let (inside, cursor) := setting.enterLine index
  if inside then setting.source.delimiterRow? cursor.index else none

/-- Whether the definition of a footnote begins. -/
def startsFootnote (setting : Setting) (index : Nat) : Bool :=
  if setting.source.startsWith index ['[', '^'] then
    match setting.source.label? setting.inTable (fun _ => none) (index + 2) with
    | some (stop, _) => setting.source.hasAt stop ':'
    | none => false
  else false

/-- Whether a list item begins that ends a paragraph. Inside the containers of the paragraph only a bullet or the
number one does, and only before content. -/
def startsInterruptingItem (setting : Setting) (inside : Bool) (index : Nat) : Bool :=
  let source := setting.source
  match source.listMarker? index with
  | none => false
  | some (marker, number, after) =>
    let spaced := source.isAt after (fun c => c == ' ' || c == '\t')
    if !(spaced || (source.lineEnd? after).isSome) then false
    else if !inside || setting.inTable then true
    else if marker == '.' || marker == ')' then
      number == 1 && !source.twoBlankLines after
    else !source.twoBlankLines after

/-- Whether a line ends a paragraph, tables aside. -/
def interruptsBlock (setting : Setting) (inside : Bool) (index : Nat) : Bool :=
  let source := setting.source
  (source.lineEnd? index).isSome
    || (source.thematicBreak? index).isSome
    || (source.headingDepth? index).isSome
    || (source.codeFence? index).isSome
    || source.hasAt index '>'
    || setting.startsInterruptingItem inside index
    || (source.hasAt index '<' &&
      ((htmlBlockEnd? source (index + 1)).isSome || startsBlockElement source (index + 1)))
    || setting.startsFootnote index

/-- Whether a table head begins that ends a paragraph. It has to begin with a pipe. -/
def startsTable (setting : Setting) (index : Nat) : Bool :=
  let source := setting.source
  if source.hasAt index '|' then
    match source.countPipes index 0 index with
    | (pipes, last, some next) =>
      match setting.delimiterLine? next with
      | some (columns, _) => columns == source.headColumns pipes index last
      | none => false
    | _ => false
  else false

/-- Whether a line ends a paragraph. -/
def interruptsParagraph (setting : Setting) (inside : Bool) (index : Nat) : Bool :=
  setting.interruptsBlock inside index || setting.startsTable index

end Setting

end Highlighter.Markdown
