import Highlighter.Document.Builder
import Highlighter.Markdown.BlockReader
import Highlighter.Markdown.InlineReader

/-!
# Reading Markdown

A source is read into blocks, the texts of the blocks into inline pieces, and both are laid out as events with the
bytes that they cover. From the events the document tree is built. The allowance for references is one for the whole
document, so the texts are read one after another.
-/

namespace Highlighter.Markdown

/-- An event with the characters that it covers. -/
structure PlacedEvent where
  event : Event
  start : Nat
  stop : Nat

/-- What the events of a document are laid out from. -/
structure Layout where
  source : Source
  definitions : Definitions
  footnotes : List String

/-- A container tag around events. -/
def around (tag : Tag) (start stop : Nat) (inner : List PlacedEvent) : List PlacedEvent :=
  ⟨.openTag tag, start, stop⟩ :: (inner ++ [⟨.closeTag, start, stop⟩])

/-! ## Inline pieces -/

mutual

/-- The events of an inline piece. -/
def Inline.events : Inline → List PlacedEvent
  | .text value start stop => [⟨.text value, start, stop⟩]
  | .code value start stop => [⟨.code value, start, stop⟩]
  | .html value start stop => [⟨.inlineHtml value, start, stop⟩]
  | .footnote label start stop => [⟨.footnoteReference label, start, stop⟩]
  | .softBreak start stop => [⟨.softBreak, start, stop⟩]
  | .hardBreak _ start stop => [⟨.hardBreak, start, stop⟩]
  | .task checked start stop => [⟨.taskMarker checked, start, stop⟩]
  | .marks mark count _ _ start =>
    [⟨.text (String.ofList (List.replicate count mark)), start, start + count⟩]
  | .nested tag children start stop => around tag start stop (inlineEvents children)

/-- The events of inline pieces, one after another. -/
def inlineEvents : List Inline → List PlacedEvent
  | [] => []
  | piece :: pieces => piece.events ++ inlineEvents pieces

end

/-! ## Blocks -/

/-- The event of a piece of code. -/
def codePiece (source : Source) : Piece → PlacedEvent
  | .columns count index => ⟨.text (String.ofList (List.replicate count ' ')), index, index⟩
  | .chars start stop => ⟨.text (source.text start stop), start, stop⟩

/-- The event of a piece of raw HTML. -/
def htmlPiece (source : Source) : Piece → PlacedEvent
  | .columns count index => ⟨.text (String.ofList (List.replicate count ' ')), index, index⟩
  | .chars start stop => ⟨.html (source.text start stop), start, stop⟩

namespace Layout

/-- The events of a text that ends at an index, in the given containers. -/
def textEvents (layout : Layout) (containers : List Container) (inTable : Bool) (stop : Nat)
    (tokens : List Token) : StateM Nat (List PlacedEvent) := do
  let setting : Setting := ⟨layout.source.upTo stop, containers, inTable⟩
  return inlineEvents (← readInline ⟨setting, layout.definitions, layout.footnotes⟩ tokens)

/-- The events of a table row. -/
def rowEvents (layout : Layout) (containers : List Container) (tag : Tag) (row : TableRow) :
    StateM Nat (List PlacedEvent) := do
  let cells ← row.cells.flatMapM fun cell => do
    let text ← layout.textEvents containers true cell.stop cell.tokens
    return around .tableCell cell.start cell.stop text
  return around tag row.start row.stop cells

/-- The events of a leaf. -/
def leafEvents (layout : Layout) (containers : List Container) (start stop : Nat) :
    Leaf → StateM Nat (List PlacedEvent)
  | .paragraph true tokens => layout.textEvents containers false stop tokens
  | .paragraph false tokens => do
    return around .paragraph start stop (← layout.textEvents containers false stop tokens)
  | .heading depth tokens => do
    return around (.heading depth) start stop (← layout.textEvents containers false stop tokens)
  | .code info pieces =>
    return around (.codeBlock info) start stop (pieces.map (codePiece layout.source))
  | .html pieces => return around .htmlBlock start stop (pieces.map (htmlPiece layout.source))
  | .table head body => do
    let headEvents ← layout.rowEvents containers .tableHead head
    let bodyEvents ← body.flatMapM (layout.rowEvents containers .tableRow)
    return around .table start stop (headEvents ++ bodyEvents)
  | .thematicBreak => return [⟨.rule, start, stop⟩]
  | .task checked => return [⟨.taskMarker checked, start, stop⟩]

/-- The tag of a container. -/
def containerTag : Container → Tag
  | .quote => .quote
  | .list _ marker start => .list (if marker = '.' ∨ marker = ')' then some start else none)
  | .item _ => .item
  | .footnote label => .footnoteDefinition label

mutual

/-- The events of a block in the given containers. -/
def blockEvents (layout : Layout) (containers : List Container) :
    Block → StateM Nat (List PlacedEvent)
  | .leaf leaf start stop => layout.leafEvents containers start stop leaf
  | .container container blocks start stop => do
    let inner ← blocksEvents layout (containers ++ [container]) blocks
    return around (containerTag container) start stop inner

/-- The events of blocks, one after another. -/
def blocksEvents (layout : Layout) (containers : List Container) :
    List Block → StateM Nat (List PlacedEvent)
  | [] => return []
  | block :: blocks => do
    let first ← blockEvents layout containers block
    return first ++ (← blocksEvents layout containers blocks)

end

end Layout

/-! ## Documents -/

/-- The events of a Markdown source, each with the bytes that it covers. -/
def events (text : String) : List (Event × ByteRange) :=
  let source := Source.ofString text
  let reader := BlockReader.read source
  let layout : Layout := ⟨source, reader.definitions, reader.footnotes⟩
  let offsets := source.byteOffsets
  let offset (index : Nat) : Nat := offsets[index]?.getD (offsets.back?.getD 0)
  let (placed, _) :=
    Id.run ((layout.blocksEvents [] reader.blocks.reverse).run (referenceAllowance text.utf8ByteSize))
  placed.map fun placed => (placed.event, ⟨offset placed.start, offset placed.stop⟩)

end Highlighter.Markdown

namespace Highlighter

/-- Reads a Markdown source into a document tree. -/
def readMarkdown (text : String) : Logged Node := Parser.read Markdown.events text

end Highlighter
