import Highlighter.Markdown.Block
import Highlighter.Markdown.Reference

/-!
# Reading the block structure

The reader goes through a source block by block. It keeps the containers that are open, the innermost first, each
with the blocks that stand before it, and the blocks of the innermost one, the last one first.

A line first claims the containers that it goes on with; the others are closed. Then it may open new ones, and what
is left of it begins a leaf.
-/

namespace Highlighter.Markdown

/-- A container that is open. -/
structure Frame where
  container : Container
  start : Nat
  /-- The blocks before it in the container around it, the last one first. -/
  before : List Block

/-- What has been read of a document. -/
structure BlockReader where
  /-- The open containers, the innermost first. -/
  frames : List Frame
  /-- The blocks of the innermost one so far, the last one first. -/
  blocks : List Block
  /-- Where the line ends behind the marker of a list item that is empty so far. -/
  emptyItem : Option Nat
  /-- Whether the last line was blank. -/
  afterBlank : Bool
  definitions : Definitions
  /-- The labels of the footnotes that are defined, folded. -/
  footnotes : List String

namespace BlockReader

/-- Nothing has been read. -/
def start : BlockReader := ⟨[], [], none, false, .empty, []⟩

/-- The source in the containers that are open. -/
def setting (reader : BlockReader) (source : Source) : Setting :=
  ⟨source, (reader.frames.map (·.container)).reverse, false⟩

/-! ## Opening and closing containers -/

/-- Adds a block to the innermost container. -/
def add (reader : BlockReader) (block : Block) : BlockReader :=
  { reader with blocks := block :: reader.blocks }

/-- Opens a container. -/
def openContainer (reader : BlockReader) (container : Container) (index : Nat) : BlockReader :=
  { reader with frames := ⟨container, index, reader.blocks⟩ :: reader.frames, blocks := [] }

/-- Closes the innermost container at an index. In a tight list the paragraphs of the items are bare texts. -/
def close (reader : BlockReader) (index : Nat) : BlockReader :=
  match reader.frames with
  | [] => reader
  | frame :: frames =>
    let blocks := reader.blocks.reverse
    match frame.container with
    | .list true .. =>
      let block := .container frame.container (blocks.map Block.tightenItem) frame.start index
      { reader with frames := frames, blocks := block :: frame.before, emptyItem := none }
    | _ =>
      let block := .container frame.container blocks frame.start index
      { reader with frames := frames, blocks := block :: frame.before }

/-- Closes so many of the innermost containers. -/
def closeMany (reader : BlockReader) (index : Nat) : Nat → BlockReader
  | 0 => reader
  | count + 1 => (reader.close index).closeMany index count

/-- The innermost container. -/
def innermost? (reader : BlockReader) : Option Container := reader.frames.head?.map (·.container)

/-- Makes a frame loose if it is a list. -/
def loosen (frame : Frame) : Frame :=
  match frame.container with
  | .list _ marker start => { frame with container := .list false marker start }
  | _ => frame

/-- Closes an item that is still empty when a blank line follows its marker. -/
def finishEmptyItem (reader : BlockReader) : BlockReader :=
  let closed := match reader.emptyItem, reader.innermost? with
    | some stop, some (.item _) => if reader.afterBlank then reader.close stop else reader
    | _, _ => reader
  { closed with emptyItem := none }

/-- Ends a list between whose items the reader stands. Behind a blank line, the list around the item in which the
reader stands is loose. -/
def finishList (reader : BlockReader) (index : Nat) : BlockReader :=
  let reader := reader.finishEmptyItem
  let reader := match reader.innermost? with
    | some (.list ..) => reader.close index
    | _ => reader
  if reader.afterBlank then
    let frames := match reader.frames with
      | inner :: outer :: frames => inner :: loosen outer :: frames
      | frames => frames
    { reader with frames := frames, afterBlank := false }
  else reader

/-- Goes on with the list between whose items the reader stands, or begins another one. -/
def continueList (reader : BlockReader) (index : Nat) (marker : Char) (number : Nat) : BlockReader :=
  let reader := reader.finishEmptyItem
  let begin (reader : BlockReader) : BlockReader :=
    { reader.openContainer (.list true marker number) index with afterBlank := false }
  match reader.frames with
  | [] => begin reader
  | frame :: frames =>
    match frame.container with
    | .list _ other _ =>
      if other = marker then
        if reader.afterBlank then
          { reader with frames := loosen frame :: frames, afterBlank := false }
        else reader
      else begin (reader.finishList index)
    | _ => begin (reader.finishList index)

/-! ## Markers of containers -/

/-- The marker of a list item: the character that tells lists apart, the number, the indentation of the content,
and the cursor behind the marker. -/
structure ItemMarker where
  marker : Char
  number : Nat
  indent : Nat
  cursor : Cursor

/-- Reads the marker of a list item behind so much indentation. A thematic break is no item. -/
def itemMarker? (source : Source) (outer : Nat) (cursor : Cursor) : Option ItemMarker :=
  match source.listMarker? cursor.index with
  | none => none
  | some (marker, number, after) =>
    let bullet := marker != '.' && marker != ')'
    let (spaced, behind) := { cursor with index := after }.takeExactly source 1
    if (bullet && (source.thematicBreak? cursor.index).isSome)
        || !(spaced || behind.atLineEnd source) then none
    else
      let indent := outer + (after - cursor.index) + 1
      if (source.blankLine? behind.index).isSome then some ⟨marker, number, indent, behind⟩
      else
        let (extra, content) := behind.takeUpTo source 4
        if extra < 4 then some ⟨marker, number, indent + extra, content⟩
        else some ⟨marker, number, indent, behind⟩

/-- Reads the check box of a task, which a blank has to follow. -/
def taskBox? (source : Source) (cursor : Cursor) : Option (Bool × Cursor) :=
  let (_, cursor) := cursor.takeUpTo source 3
  let index := cursor.index
  if source.hasAt index '[' && source.hasAt (index + 2) ']' && source.isAt (index + 3) isBlank then
    match source.at? (index + 1) with
    | some c =>
      if c = 'x' ∨ c = 'X' then some (true, { cursor with index := index + 3 })
      else if isBlank c then some (false, { cursor with index := index + 3 })
      else none
    | none => none
  else none

/-- Reads the label of the definition of a footnote, and the index behind its colon. -/
def footnoteLabel? (setting : Setting) (index : Nat) : Option (String × Nat) :=
  if setting.source.startsWith index ['[', '^'] then
    match setting.source.label? setting.inTable (fun _ => none) (index + 2) with
    | some (stop, label) =>
      if setting.source.hasAt stop ':' then some (label, stop + 1) else none
    | none => none
  else none

/-- Begins the definition of a footnote, in place of one that is still open. -/
def openFootnote (reader : BlockReader) (label : String) (index : Nat) : BlockReader :=
  let reader := reader.finishList index
  let reader := match reader.innermost? with
    | some (.footnote _) => reader.close index
    | _ => reader
  let reader := { reader with footnotes := Unicode.foldCase label :: reader.footnotes }
  reader.openContainer (.footnote label) index

/-- The reader behind the container markers of a line: at the end of the line, or before its content, with the index
from which the line is counted. -/
inductive Opened where
  | wholeLine (reader : BlockReader) (next : Nat)
  | content (reader : BlockReader) (lineStart : Nat) (cursor : Cursor)

/-- Adds a leaf that was read, and gives the index at which reading goes on. -/
def addLeaf (reader : BlockReader) (read : LeafRead) : BlockReader × Nat :=
  ({ reader.add (.leaf read.leaf read.start read.stop) with afterBlank := read.afterBlank },
    read.next)

/-- Opens the containers whose markers follow in a line. The text behind a check box is a paragraph, whatever it begins
with. -/
def openContainers (source : Source) (reader : BlockReader) (lineStart : Nat) (cursor : Cursor) :
    Opened :=
  let (outer, inner) := cursor.takeUpTo source 4
  let index := inner.index
  let goOn (reader : BlockReader) (lineStart : Nat) (next : Cursor) : Opened :=
    if _h : cursor.index < next.index ∧ cursor.index < source.size then
      openContainers source reader lineStart next
    else .content reader lineStart next
  if outer ≥ 4 then .content reader lineStart cursor
  else
    match footnoteLabel? (reader.setting source) index with
    | some (label, after) =>
      -- Columns are counted anew behind the label.
      goOn (reader.openFootnote label index) after (.atStart after)
    | none =>
      match itemMarker? source outer inner with
      | some item =>
        let start := index - outer
        let reader := (reader.continueList start item.marker item.number).openContainer
          (.item item.indent) start
        match source.blankLine? item.cursor.index with
        | some next =>
          -- Nothing follows the marker: a blank line may end the item again.
          .wholeLine { reader with emptyItem := some next } next
        | none =>
          match taskBox? source item.cursor with
          | none => goOn reader lineStart item.cursor
          | some (checked, behind) =>
            let box : Token := ⟨.task checked, item.cursor.index, behind.index⟩
            match source.blankLine? behind.index with
            | some next =>
              let reader := reader.add (.leaf (.task checked) box.start box.stop)
              .wholeLine { reader with emptyItem := some next } next
            | none =>
              let text := source.skipBlanks behind.index
              let (reader, next) := reader.addLeaf ((reader.setting source).paragraph [box] text)
              .wholeLine reader next
      | none =>
        match inner.takeQuote? source with
        | some next => goOn ((reader.finishList lineStart).openContainer .quote index) lineStart next
        | none => .content reader lineStart cursor
termination_by source.size - cursor.index
decreasing_by exact Nat.sub_lt_sub_left _h.2 _h.1

/-! ## Lines -/

/-- Takes note of a blank line. The content of an item that is still empty needs no indentation any more. -/
def blankLine (reader : BlockReader) : BlockReader :=
  match reader.frames with
  | [] => { reader with afterBlank := true }
  | frame :: frames =>
    match frame.container with
    | .quote => reader
    | .item _ =>
      if reader.emptyItem.isSome then
        { reader with frames := { frame with container := .item 0 } :: frames, afterBlank := true }
      else { reader with afterBlank := true }
    | _ => { reader with afterBlank := true }

/-- Reads definitions from an index on, and then a paragraph. Behind a definition the line goes on as if it were in a
paragraph. A list before them ends where the paragraph begins, or at the start of the line of the last definition. -/
def readText (source : Source) (reader : BlockReader) (lineStart index : Nat) : BlockReader × Nat :=
  let setting := reader.setting source
  match setting.definition? index with
  | none =>
    let reader := reader.finishList index
    reader.addLeaf ((reader.setting source).paragraph [] index)
  | some (stop, label, destination, title) =>
    let reader :=
      { reader with definitions := reader.definitions.define label ⟨destination, title⟩ }
    match source.blankLine? stop with
    | none => (reader, stop)
    | some next =>
      let (inside, cursor) := setting.enterLine next
      let (complete, cursor) := cursor.takeExactly source 4
      if !complete && setting.interruptsParagraph inside cursor.index then
        (reader.finishList lineStart, next)
      else
        -- The next line may hold a further definition, or the first line of a paragraph.
        let text := (cursor.skipAll source).index
        if _h : index < text ∧ index < source.size then readText source reader next text
        else (reader, max next text)
termination_by source.size - index
decreasing_by exact Nat.sub_lt_sub_left _h.2 _h.1

/-- Reads the block of HTML at an angle bracket, if there is one. -/
def html? (setting : Setting) (columns index : Nat) : Option LeafRead :=
  if setting.source.hasAt index '<' then
    match htmlBlockEnd? setting.source (index + 1) with
    | some word => some (setting.htmlBlock (some word) columns index)
    | none =>
      if startsBlockElement setting.source (index + 1) || setting.isLoneTag index then
        some (setting.htmlBlock none columns index)
      else none
  else none

/-- Reads the leaf that the content of a line begins. -/
def readLeaf (source : Source) (reader : BlockReader) (lineStart spare indent : Nat)
    (cursor : Cursor) : BlockReader × Nat :=
  -- What stands at this indentation is no item, so a list among whose items it would stand is over.
  let ended := reader.finishList lineStart
  let setting := ended.setting source
  let index := cursor.index
  if indent = 4 then ended.addLeaf (setting.indentedCode cursor.spare index)
  else
    match html? setting (max spare indent) index with
    | some read => ended.addLeaf read
    | none =>
      match source.thematicBreak? index with
      | some stop => ended.addLeaf ⟨.thematicBreak, index, stop, stop, false⟩
      | none =>
        match source.headingDepth? index with
        | some depth => ended.addLeaf (setting.atxHeading depth index)
        | none =>
          match source.codeFence? index with
          | some (mark, count) => ended.addLeaf (setting.fencedCode indent mark count index)
          | none => reader.readText source lineStart index

/-- Reads the block at the start of a line, and gives the index at which reading goes on. -/
def readBlock (source : Source) (reader : BlockReader) (index : Nat) : BlockReader × Nat :=
  let containers := (reader.setting source).containers
  let (entered, cursor) := (Cursor.atStart index).enterAll source containers
  let reader := reader.closeMany index (containers.length - entered)
  match openContainers source reader index cursor with
  | .wholeLine reader next => (reader, next)
  | .content reader lineStart cursor =>
    match source.blankLine? cursor.index with
    | some next => (reader.blankLine, next)
    | none =>
      let (indent, content) := cursor.takeUpTo source 4
      reader.readLeaf source lineStart cursor.spare indent content

/-- Reads all blocks from an index on, and closes what is open at the end. -/
def readFrom (source : Source) (reader : BlockReader) (index : Nat) : BlockReader :=
  if index < source.size then
    let (next, after) := reader.readBlock source index
    readFrom source next (max after (index + 1))
  else reader.closeMany index reader.frames.length
termination_by source.size - index

/-- Reads the block structure of a source. -/
def read (source : Source) : BlockReader := start.readFrom source 0

end BlockReader

end Highlighter.Markdown
