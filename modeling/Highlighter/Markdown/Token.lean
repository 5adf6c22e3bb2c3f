import Highlighter.Markdown.LineStart
import Highlighter.Unicode.Classes

/-!
# Tokens of a text line

A line of a paragraph, a heading or a table cell is cut into tokens: plain text, and the marks that may begin or
end inline elements. What the marks mean is settled when the whole block is known.
-/

namespace Highlighter.Markdown

/-- What a token is. -/
inductive TokenKind where
  | text
  /-- Characters that stand for others. -/
  | resolved (value : String)
  | softBreak
  /-- A hard line break, written with a backslash or with blanks. -/
  | hardBreak (backslash : Bool)
  /-- A run of one emphasis mark, and whether it may open or close emphasis. -/
  | emphasis (mark : Char) (opens closes : Bool)
  /-- A run of backticks; the first one may be escaped. -/
  | backticks (escaped : Bool)
  | angle
  | bracket
  | imageBracket
  /-- The check box of a task. -/
  | task (checked : Bool)
  /-- A closing bracket, and whether a label that ends here may be a reference. -/
  | closing (reference : Bool)
deriving DecidableEq, Inhabited

/-- A token with the characters it covers. -/
structure Token where
  kind : TokenKind
  start : Nat
  stop : Nat
deriving Inhabited

/-- How a line is read with regard to tables. -/
inductive TableReading where
  /-- There can be no table. -/
  | none
  /-- The line may turn out to be the head of a table. -/
  | mayBeHead
  /-- The line is a table row; the text is one cell of it. -/
  | cell
deriving DecidableEq

/-- What a text line ends with. -/
inductive LineBreak where
  /-- The end of the source, or of the cell. -/
  | none
  | soft (start stop : Nat)
  | hard (backslash : Bool) (start stop : Nat)
  /-- The line is the head of a table with so many columns, and its body begins at an index. -/
  | tableHead (columns body : Nat)

/-- A text line in tokens, and the index at which reading goes on. -/
structure TokenLine where
  tokens : List Token
  next : Nat
  ending : LineBreak

/-! ## Emphasis marks -/

namespace Source

/-- Whether a pipe stands before an index that is not escaped. -/
def behindPipe (source : Source) (index : Nat) : Bool :=
  0 < index && source.hasAt (index - 1) '|' && !(1 < index && source.hasAt (index - 2) '\\')

/-- Whether a run of emphasis marks may stand inside a word. -/
def mayBeInWord (mark : Char) (length : Nat) : Bool := mark == '*' || (mark == '~' && 1 < length)

/-- Whether a run of emphasis marks may open emphasis. -/
def opensEmphasis (source : Source) (mark : Char) (length index : Nat) (inCell : Bool) : Bool :=
  match source.at? (index + length) with
  | none => false
  | some next =>
    if Unicode.isWhiteSpace next then false
    else if index = 0 then true
    else if inCell && source.behindPipe index then true
    else if inCell && next == '|' then false
    else if mayBeInWord mark length && !Unicode.isPunctuation next then true
    else source.isAt (index - 1) fun before =>
      (mark == '~' && before == '~' && !Unicode.isPunctuation next)
        || Unicode.isWhiteSpace before || Unicode.isPunctuation before

/-- Whether a run of emphasis marks may close emphasis. -/
def closesEmphasis (source : Source) (mark : Char) (length index : Nat) (inCell : Bool) : Bool :=
  if index = 0 then false
  else source.isAt (index - 1) fun before =>
    if Unicode.isWhiteSpace before then false
    else
      match source.at? (index + length) with
      | none => true
      | some next =>
        if inCell && source.behindPipe index then false
        else if inCell && next == '|' then true
        else if mayBeInWord mark length && !Unicode.isPunctuation before then true
        else (mark == '~' && before == '~') || Unicode.isWhiteSpace next
          || Unicode.isPunctuation next

end Source

/-! ## Lines -/

/-- A line as far as it has been cut: the tokens so far, the last one first, the index at which plain text began,
and the pipes so far. -/
structure LineScan where
  tokens : List Token
  textStart : Nat
  pipes : Nat
  lastPipe : Nat

namespace LineScan

/-- Ends the plain text at an index. -/
def endText (scan : LineScan) (stop : Nat) : List Token :=
  if scan.textStart < stop then ⟨.text, scan.textStart, stop⟩ :: scan.tokens else scan.tokens

/-- Adds a token behind the plain text before it. -/
def add (scan : LineScan) (kind : TokenKind) (start stop : Nat) : LineScan :=
  { scan with tokens := ⟨kind, start, stop⟩ :: scan.endText start, textStart := stop }

/-- Leaves out the characters from an index up to another. -/
def leaveOut (scan : LineScan) (start stop : Nat) : LineScan :=
  { scan with tokens := scan.endText start, textStart := stop }

end LineScan

namespace Setting

/-- Ends a line that no line end belongs to. Blanks at its end are left out. -/
def endOfText (setting : Setting) (scan : LineScan) (index : Nat) : TokenLine :=
  ⟨(scan.endText (setting.source.skipBack isBlank scan.textStart index)).reverse, index, .none⟩

/-- Ends a line at its line end. Two or more blanks before it, or a backslash, make a hard break. -/
def endOfLine (setting : Setting) (reading : TableReading) (start : Nat) (scan : LineScan)
    (index after : Nat) : TokenLine :=
  let source := setting.source
  let table := if reading = .mayBeHead ∧ 0 < scan.pipes then setting.delimiterLine? after else none
  let ordinary : TokenLine :=
    let backslashes := index - source.skipBack (· == '\\') 0 index
    if backslashes % 2 = 1 ∧ after < source.size then
      ⟨(scan.endText (index - 1)).reverse, after, .hard true (index - 1) after⟩
    else
      let visible := source.skipBack isBlank 0 index
      if index - visible ≥ 2 then
        ⟨(scan.endText visible).reverse, after, .hard false visible after⟩
      else ⟨(scan.endText visible).reverse, after, .soft index after⟩
  match table with
  | some (columns, body) =>
    if columns = source.headColumns scan.pipes start scan.lastPipe then
      ⟨scan.endText index |>.reverse, after, .tableHead columns body⟩
    else ordinary
  | none => ordinary

/-- Cuts a line from an index on. -/
def cutFrom (setting : Setting) (reading : TableReading) (start : Nat) (scan : LineScan)
    (index : Nat) : TokenLine :=
  let source := setting.source
  if h : index < setting.source.chars.size then
    let c := setting.source.chars[index]
    let goOn (scan : LineScan) (skipped : Nat) : TokenLine :=
      cutFrom setting reading start scan (index + 1 + skipped)
    if c = '\n' ∨ c = '\r' then
      if reading = .cell then setting.endOfText scan index
      else setting.endOfLine reading start scan index ((source.lineEnd? index).getD (index + 1))
    else if c = '\\' then
      if source.isAt (index + 1) isAsciiPunctuation then
        if source.hasAt (index + 1) '\x60' then
          -- The escaped backtick opens no code span, but the run as a whole may close one.
          let count := source.countRun '\x60' (index + 1)
          goOn ((scan.leaveOut index (index + 1)).add (.backticks true) (index + 1)
            (index + 1 + count)) count
        else if reading = .cell ∧ source.hasAt (index + 1) '\\' ∧ source.hasAt (index + 2) '|' then
          goOn (scan.leaveOut index (index + 2)) 2
        else goOn (scan.leaveOut index (index + 1)) 1
      else goOn scan 0
    else if c = '*' ∨ c = '_' ∨ c = '~' then
      let count := source.countRun c index
      let inCell := reading == .cell
      let opens := source.opensEmphasis c count index inCell
      let closes := source.closesEmphasis c count index inCell
      -- Three tildes or more mark nothing inside a line.
      if (opens || closes) && (c != '~' || count ≤ 2) then
        goOn (scan.add (.emphasis c opens closes) index (index + count)) (count - 1)
      else goOn scan (count - 1)
    else if c = '\x60' then
      let count := source.countRun c index
      goOn (scan.add (.backticks false) index (index + count)) (count - 1)
    else if c = '<' then
      if source.hasAt (index + 1) '\\' then goOn scan 0
      else goOn (scan.add .angle index (index + 1)) 0
    else if c = '!' then
      if source.hasAt (index + 1) '[' then goOn (scan.add .imageBracket index (index + 2)) 1
      else goOn scan 0
    else if c = '[' then goOn (scan.add .bracket index (index + 1)) 0
    else if c = ']' then goOn (scan.add (.closing true) index (index + 1)) 0
    else if c = '&' then
      match source.reference? index with
      | some (stop, value) =>
        goOn (scan.add (.resolved value) index stop) (stop - index - 1)
      | none => goOn scan 0
    else if c = '|' then
      if reading = .cell then setting.endOfText scan index
      else goOn { scan with pipes := scan.pipes + 1, lastPipe := index } 0
    else goOn scan 0
  else setting.endOfText scan index
termination_by setting.source.chars.size - index
decreasing_by all_goals omega

/-- Cuts the line that begins at an index into tokens. -/
def cutLine (setting : Setting) (reading : TableReading) (start : Nat) : TokenLine :=
  setting.cutFrom reading start ⟨[], start, 0, start⟩ start

end Setting

end Highlighter.Markdown
