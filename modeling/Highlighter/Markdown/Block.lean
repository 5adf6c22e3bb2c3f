import Highlighter.Markdown.Token

/-!
# Blocks

The block structure of a document: containers hold blocks, leaves hold text. The text of a paragraph, a heading
or a table cell is kept in tokens, that of code and of raw HTML in pieces of the source.
-/

namespace Highlighter.Markdown

/-- A piece of literal text. -/
inductive Piece where
  /-- Columns of indentation that are left of a tab before an index. -/
  | columns (count index : Nat)
  /-- The characters between two indices. -/
  | chars (start stop : Nat)

/-- A cell of a table. -/
structure TableCell where
  tokens : List Token
  start : Nat
  stop : Nat

/-- A row of a table. -/
structure TableRow where
  cells : List TableCell
  start : Nat
  stop : Nat

/-- A block without blocks inside. -/
inductive Leaf where
  /-- A paragraph; a tight one stands in a tight list and is shown as its bare text. -/
  | paragraph (tight : Bool) (tokens : List Token)
  | heading (depth : Nat) (tokens : List Token)
  /-- A code block; a fenced one has an info string. -/
  | code (info : Option String) (pieces : List Piece)
  | html (pieces : List Piece)
  | table (head : TableRow) (body : List TableRow)
  | thematicBreak
  /-- The check box of a task without text. -/
  | task (checked : Bool)

/-- A block with the characters it covers. -/
inductive Block where
  | leaf (leaf : Leaf) (start stop : Nat)
  | container (container : Container) (blocks : List Block) (start stop : Nat)

namespace Block

/-- A paragraph as it stands in a tight list item; other blocks stay as they are. -/
def tightenParagraph : Block → Block
  | leaf (.paragraph _ tokens) start stop => leaf (.paragraph true tokens) start stop
  | block => block

/-- A list item with its paragraphs made tight. -/
def tightenItem : Block → Block
  | container kind blocks start stop => container kind (blocks.map tightenParagraph) start stop
  | block => block

end Block

/-- A leaf that was read: the characters it covers, the index at which reading goes on, and whether the last line
read was blank. -/
structure LeafRead where
  leaf : Leaf
  start : Nat
  stop : Nat
  next : Nat
  afterBlank : Bool

/-- The pieces of a line of literal text, behind columns left of a tab. The carriage return before a last character
of one byte, as a newline is, is left out. -/
def linePieces (source : Source) (columns start stop : Nat) : List Piece :=
  let indent := if 0 < columns then [Piece.columns columns start] else []
  let ranges :=
    if 2 ≤ stop ∧ source.hasAt (stop - 2) '\r' ∧ source.isAt (stop - 1) (·.utf8Size = 1) then
      [(start, stop - 2), (stop - 1, stop)]
    else [(start, stop)]
  indent ++ (ranges.filter fun range => range.1 < range.2).map fun range =>
    .chars range.1 range.2

namespace Setting

/-! ## Code -/

/-- The lines of a fenced code block from an index on: their pieces, and the end of the block with the index at
which reading goes on. -/
def fencedLines (setting : Setting) (indent : Nat) (mark : Char) (count index : Nat) :
    List Piece × Nat × Nat :=
  let source := setting.source
  let (inside, cursor) := setting.enterLine index
  if !inside then ([], index, index)
  else
    -- A line loses as much indentation as the opening fence has. The closing fence has three columns at most.
    let (_, cursor) := cursor.takeColumns source indent
    let (missing, close) := cursor.takeColumns source (4 - indent)
    let closing := if missing = 0 then none else source.closingFence? mark count close.index
    match closing with
    | some stop => ([], stop, (source.blankLine? stop).getD stop)
    | none =>
      let next := source.nextLine cursor.index
      let pieces := linePieces source cursor.spare cursor.index next
      if _h : index < next ∧ index < setting.source.size then
        let (more, stop, after) := fencedLines setting indent mark count next
        (pieces ++ more, stop, after)
      else (pieces, next, next)
termination_by setting.source.size - index
decreasing_by exact Nat.sub_lt_sub_left _h.2 _h.1

/-- Reads a code block at its opening fence. -/
def fencedCode (setting : Setting) (indent : Nat) (mark : Char) (count index : Nat) : LeafRead :=
  let source := setting.source
  let infoStart := source.skipBlanks (index + count)
  let first := source.nextLine infoStart
  let infoStop := source.skipBack isSpace infoStart first
  let info := unescape setting.inTable (source.slice infoStart infoStop)
  let (pieces, stop, next) := setting.fencedLines indent mark count first
  ⟨.code (some info) pieces, index, stop, next, false⟩

/-- The lines of an indented code block from an index on: for each its pieces, its end, and whether it is blank. At
last the index at which reading goes on. -/
def indentedLines (setting : Setting) (columns index : Nat) (blank : Bool) :
    List (List Piece × Nat × Bool) × Nat :=
  let source := setting.source
  let next := source.nextLine index
  let line := (linePieces source columns index next, next, blank)
  let (inside, cursor) := setting.enterLine next
  let (complete, cursor) := cursor.takeExactly source 4
  if !inside || !(complete || cursor.atLineEnd source) || source.size ≤ cursor.index then
    ([line], next)
  else if _ : index < cursor.index ∧ index < setting.source.size then
    let more := indentedLines setting cursor.spare cursor.index
      (source.blankLine? cursor.index).isSome
    (line :: more.1, more.2)
  else ([line], next)
termination_by setting.source.size - index

/-- Reads an indented code block behind its indentation. Blank lines at its end are no part of it. -/
def indentedCode (setting : Setting) (columns index : Nat) : LeafRead :=
  let (lines, next) := setting.indentedLines columns index false
  let kept := (lines.reverse.dropWhile (·.2.2)).reverse
  let stop := match kept.getLast? with
    | some line => line.2.1
    | none => next
  let afterBlank := match lines.getLast? with
    | some line => line.2.2
    | none => false
  ⟨.code none (kept.flatMap (·.1)), index, stop, next, afterBlank⟩

/-! ## Raw HTML -/

/-- Whether a word occurs between two indices. -/
def occursIn (source : Source) (word : List Char) (start stop : Nat) : Bool :=
  ((source.upTo stop).findAfter? word start).isSome

/-- The lines of a block of HTML from an index on, up to the line that holds the given text or, without such a
text, up to a blank line: their pieces, and the end of the block with the index at which reading goes on. -/
def htmlLines (setting : Setting) (ending : Option (List Char)) (columns index : Nat) :
    List Piece × Nat × Nat :=
  let source := setting.source
  let next := source.nextLine index
  let pieces := linePieces source columns index next
  let (inside, cursor) := setting.enterLine next
  let ended := match ending with
    | some word => occursIn source word index next
    | none => cursor.atLineEnd source
  if !inside || ended then (pieces, next, next)
  else
    let blank := ending.isNone && (source.blankLine? cursor.index).isSome
    if source.size ≤ cursor.index || blank then (pieces, cursor.index, next)
    else if _ : index < cursor.index ∧ index < setting.source.size then
      let (more, stop, after) := htmlLines setting ending cursor.spare cursor.index
      (pieces ++ more, stop, after)
    else (pieces, next, next)
termination_by setting.source.size - index

/-- Reads a block of HTML behind its indentation. -/
def htmlBlock (setting : Setting) (ending : Option (List Char)) (columns index : Nat) : LeafRead :=
  let (pieces, stop, next) := setting.htmlLines ending columns index
  ⟨.html pieces, index, stop, next, false⟩

/-! ## Headings -/

/-- The token of a backslash that ends the last line of a text. No line break follows it, so it is text. -/
def lastBackslash : LineBreak → List Token
  | .hard true start _ => [⟨.text, start, start + 1⟩]
  | _ => []

/-- The index at which the text of a heading ends that lies between two indices: spaces at the end are left out,
and so is a closing run of number signs behind a space or at the start. -/
def headingTextEnd (source : Source) (start stop : Nat) : Nat :=
  let visible := source.skipBack (fun c => c == '\n' || c == '\r' || c == ' ') start stop
  let closer := source.skipBack (· == '#') start visible
  if closer = start then start
  else
    let bare := source.skipBack (· == ' ') start closer
    if bare < closer then bare else visible

/-- Tokens with the last one cut at an index; it is left out if nothing of it remains. -/
def cutLast (tokens : List Token) (stop : Nat) : List Token :=
  match tokens.reverse with
  | [] => []
  | last :: earlier =>
    if last.start < stop then ({ last with stop := stop } :: earlier).reverse else earlier.reverse

/-- Reads a heading at its number signs. -/
def atxHeading (setting : Setting) (depth index : Nat) : LeafRead :=
  let source := setting.source
  match source.lineEnd? (index + depth) with
  | some next => ⟨.heading depth [], index, next, next, false⟩
  | none =>
    let start := source.skipBlanks (index + depth)
    let line := setting.cutLine .none start
    let tokens := cutLast (line.tokens ++ lastBackslash line.ending)
      (headingTextEnd source start line.next)
    ⟨.heading depth tokens, index, line.next, line.next, false⟩

/-! ## Tables -/

/-- The cells of a table row from an index on, and the index after the row. -/
def rowCells (setting : Setting) (index : Nat) : List TableCell × Nat :=
  let source := setting.source
  let start := if source.hasAt index '|' then index + 1 else index
  let content := source.skipBlanks start
  match source.lineEnd? content with
  | some next => ([], next)
  | none =>
    let line := setting.cutLine .cell content
    let cell := ⟨line.tokens, start, line.next⟩
    if _h : index < line.next ∧ index < setting.source.size then
      let (more, next) := rowCells setting line.next
      (cell :: more, next)
    else ([cell], line.next)
termination_by setting.source.size - index
decreasing_by exact Nat.sub_lt_sub_left _h.2 _h.1

/-- A table row with a fixed number of cells: further cells are left out, missing cells are empty. -/
def fitRow (columns start stop : Nat) (cells : List TableCell) : TableRow :=
  let missing := List.replicate (columns - cells.length) ⟨[], stop, stop⟩
  ⟨cells.take columns ++ missing, start, stop⟩

/-- The rows of the body of a table from an index on, and the index after the table. A lone pipe is no row. -/
def tableBody (setting : Setting) (columns index : Nat) : List TableRow × Nat :=
  let source := setting.source
  let (inside, cursor) := setting.enterLine index
  let start := (cursor.skipAll source).index
  if !inside || setting.interruptsBlock inside start then ([], index)
  else
    let (cells, next) := setting.rowCells start
    if cells.isEmpty then ([], index)
    else
      let row := fitRow columns start next cells
      if _ : index < next ∧ index < setting.source.size then
        let (rows, stop) := tableBody setting columns next
        (row :: rows, stop)
      else ([row], next)
termination_by setting.source.size - index

/-- Reads a table whose head and body begin at the given indices. -/
def table (setting : Setting) (columns start body : Nat) : LeafRead :=
  let setting := { setting with inTable := true }
  let (cells, next) := setting.rowCells start
  let (rows, stop) := setting.tableBody columns body
  ⟨.table (fitRow columns start next cells) rows, start, stop, stop, false⟩

/-! ## Paragraphs -/

/-- The token of a line break inside a paragraph. -/
def breakToken : LineBreak → List Token
  | .soft start stop => [⟨.softBreak, start, stop⟩]
  | .hard backslash start stop => [⟨.hardBreak backslash, start, stop⟩]
  | _ => []

/-- Reads on a paragraph that began at an index, behind the tokens of its earlier lines. It may turn out to be a
heading, by a line below it. -/
def paragraphFrom (setting : Setting) (start : Nat) (earlier : List Token) (line : TokenLine) :
    Nat → LeafRead
  | 0 => ⟨.paragraph false earlier, start, line.next, line.next, false⟩
  | fuel + 1 =>
    let source := setting.source
    let tokens := earlier ++ line.tokens
    let closed := tokens ++ lastBackslash line.ending
    let ended : LeafRead := ⟨.paragraph false closed, start, line.next, line.next, false⟩
    let (inside, cursor) := setting.enterLine line.next
    let (complete, cursor) := cursor.takeExactly source 4
    let underline := if complete || !inside then none else source.underline? cursor.index
    match underline with
    | some (depth, stop) => ⟨.heading depth closed, start, stop, stop, false⟩
    | none =>
      if !complete && setting.interruptsParagraph inside cursor.index then ended
      else
        -- A line that is indented too far for a block of its own goes on with the paragraph.
        let cursor := cursor.skipAll source
        if cursor.atLineEnd source then ended
        else
          paragraphFrom setting start (tokens ++ breakToken line.ending)
            (setting.cutLine .none cursor.index) fuel

/-- Reads a paragraph behind tokens that belong to it, or a table if its second line makes it one. A table leaves the
tokens out. -/
def paragraph (setting : Setting) (earlier : List Token) (start : Nat) : LeafRead :=
  let line := setting.cutLine .mayBeHead start
  match line.ending with
  | .tableHead columns body => setting.table columns start body
  | _ => setting.paragraphFrom start earlier line (setting.source.size - start)

/-! ## Definitions -/

/-- Where the text of a paragraph goes on in a further line, unless that line ends the paragraph. -/
def resumeText? (setting : Setting) (index : Nat) : Option Nat :=
  let (inside, cursor) := setting.enterLine index
  let (complete, cursor) := cursor.takeExactly setting.source 4
  let ends := setting.interruptsParagraph inside cursor.index
    || (inside && (setting.source.underline? cursor.index).isSome)
  if !complete && ends then none else some (setting.source.skipBlanks cursor.index)

/-- Passes over white space between the parts of a definition, and tells whether there was a line end. There may
be one at most. -/
def definitionSpace? (setting : Setting) (index : Nat) : Option (Nat × Bool) :=
  let blank := setting.source.skipBlanks index
  match setting.source.lineEnd? blank with
  | none => some (blank, false)
  | some after =>
    match setting.resumeText? after with
    | none => none
    | some next => if (setting.source.lineEnd? next).isSome then none else some (next, true)

/-- Reads the title of a definition behind its opening mark, up to and with the closing one. -/
def definitionTitle? (setting : Setting) (close : Char) (index : Nat) (reversed : List Char) :
    Option (Nat × List Char) :=
  if h : index < setting.source.chars.size then
    let c := setting.source.chars[index]
    if c = close then some (index + 1, reversed.reverse)
    else if c = '\\' then
      definitionTitle? setting close (index + 2)
        ((setting.source.slice (index + 1) (index + 2)) ++ c :: reversed)
    else
      match setting.source.lineEnd? index with
      | none => definitionTitle? setting close (index + 1) (c :: reversed)
      | some after =>
        match setting.resumeText? after with
        | none => none
        | some next => definitionTitle? setting close (max next (index + 1)) ('\n' :: reversed)
  else none
termination_by setting.source.chars.size - index

/-- Reads a title of a definition. -/
def title? (setting : Setting) (index : Nat) : Option (Nat × List Char) :=
  match setting.source.at? index with
  | some '"' => setting.definitionTitle? '"' (index + 1) []
  | some '\'' => setting.definitionTitle? '\'' (index + 1) []
  | some '(' => setting.definitionTitle? ')' (index + 1) []
  | _ => none

/-- Reads what a definition says behind its colon: the index behind it, the destination and the title. A title on a
line of its own that is followed by anything else is no part of the definition. -/
def definitionBody? (setting : Setting) (index : Nat) : Option (Nat × String × Option String) :=
  let source := setting.source
  match setting.definitionSpace? index with
  | none => none
  | some (start, _) =>
    match source.destination? start with
    | none => none
    | some (stop, destination) =>
      if stop = start then none
      else
        let url := unescape setting.inTable destination
        let bare := some (stop, url, none)
        match setting.definitionSpace? stop with
        | none => bare
        | some (next, broken) =>
          if next = stop then none
          else
            match setting.title? next with
            | some (after, title) =>
              if (source.blankLine? after).isSome then
                some (after, url, some (unescape setting.inTable title))
              else if broken then bare else none
            | none => if broken then bare else none

/-- Reads a definition: the index behind it, the label, and what it is defined as. -/
def definition? (setting : Setting) (index : Nat) : Option (Nat × String × String × Option String) :=
  if setting.source.hasAt index '[' then
    match setting.source.label? setting.inTable setting.resumeText? (index + 1) with
    | some (colon, label) =>
      if setting.source.hasAt colon ':' then
        (setting.definitionBody? (colon + 1)).map fun (stop, body) => (stop, label, body)
      else none
    | none => none
  else none

end Setting

end Highlighter.Markdown
