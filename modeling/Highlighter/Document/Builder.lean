import Highlighter.Document.Node
import Highlighter.Event
import Highlighter.Log
import Highlighter.Source.LineIndex
import Highlighter.Unicode.Classes

/-!
# Building a tree from events

The builder holds the containers that are still open, the innermost first; the root is always among them. An
event that closes a container adds it to the one around it.

Texts that follow one another become one text. In a literal container, which is a code block, a block of
HTML, or an image, no child is made: the texts of its content are joined into its value or its `alt`
attribute.
-/

namespace Highlighter

/-- What becomes of the content of a container. -/
inductive Literal where
  /-- It becomes children. -/
  | children
  /-- Its texts are joined into the value. -/
  | value
  /-- Its texts are joined into the attribute `alt`. -/
  | alt
deriving DecidableEq, Repr

/-- A container that is still open. -/
structure OpenElement where
  kind : String
  attributes : Attributes
  literal : Literal
  position : Option Position
  /-- The children so far, the last one first. -/
  reversed : List Node
  /-- The literal text so far. -/
  buffer : String

namespace Tag

/-- The first word of an info string, and what follows it, without blanks around. -/
def infoParts (info : String) : List Char × List Char :=
  let word := info.toList.takeWhile (!Unicode.isWhiteSpace ·)
  let rest := (info.toList.dropWhile (!Unicode.isWhiteSpace ·)).drop 1
  let trimmed := ((rest.dropWhile Unicode.isWhiteSpace).reverse.dropWhile
    Unicode.isWhiteSpace).reverse
  (word, trimmed)

/-- The attributes of a code block: the language and what else its info string says. -/
def infoAttributes (info : String) : Attributes :=
  let (word, rest) := infoParts info
  let attributes := if word.isEmpty then Attributes.empty
    else Attributes.empty.insert "lang" (.text (String.ofList word))
  if rest.isEmpty then attributes else attributes.insert "meta" (.text (String.ofList rest))

/-- The attributes of a link or an image. -/
def linkAttributes (url title : String) : Attributes :=
  let attributes := Attributes.empty.insert "url" (.text url)
  if title = "" then attributes else attributes.insert "title" (.text title)

/-- The attributes of a list. -/
def listAttributes (start : Option Nat) : Attributes :=
  let attributes := Attributes.empty.insert "ordered" (.flag start.isSome)
  match start with
  | some start => attributes.insert "start" (.number start)
  | none => attributes

/-- The kind of the element for a container. -/
def kind : Tag → String
  | paragraph => "paragraph"
  | heading _ => "heading"
  | quote => "blockquote"
  | codeBlock _ => "code"
  | htmlBlock => "html"
  | list _ => "list"
  | item => "listItem"
  | emphasis => "emphasis"
  | strong => "strong"
  | strikethrough => "delete"
  | link .. => "link"
  | image .. => "image"
  | table => "table"
  | tableHead => "tableRow"
  | tableRow => "tableRow"
  | tableCell => "tableCell"
  | footnoteDefinition _ => "footnoteDefinition"
  | other => "unknown"

/-- The attributes of the element for a container. -/
def attributes : Tag → Attributes
  | heading depth => Attributes.empty.insert "depth" (.number depth)
  | codeBlock (some info) => infoAttributes info
  | list start => listAttributes start
  | link url title => linkAttributes url title
  | image url title => linkAttributes url title
  | tableHead => Attributes.empty.insert "head" (.flag true)
  | footnoteDefinition label => Attributes.empty.insert "identifier" (.text label)
  | _ => Attributes.empty

/-- What becomes of the content of a container. -/
def literal : Tag → Literal
  | codeBlock _ => .value
  | htmlBlock => .value
  | image .. => .alt
  | _ => .children

end Tag

/-- The text without a newline at its end, if it has one there. -/
def dropFinalNewline (text : String) : String :=
  match text.toList.reverse with
  | '\n' :: rest => String.ofList rest.reverse
  | _ => text

namespace OpenElement

/-- The open container for a tag. -/
def ofTag (tag : Tag) (position : Position) : OpenElement :=
  ⟨tag.kind, tag.attributes, tag.literal, some position, [], ""⟩

/-- The element that an open container becomes when it is closed. The newline that ends a code block is no
part of its value. -/
def close (element : OpenElement) : Node :=
  let children := element.reversed.reverse
  match element.literal with
  | .children => .element element.kind none element.attributes children element.position
  | .value =>
    let value := if element.kind = "code" then dropFinalNewline element.buffer else element.buffer
    .element element.kind (some value) element.attributes children element.position
  | .alt =>
    .element element.kind none (element.attributes.insert "alt" (.text element.buffer)) children
      element.position

/-- Adds a node. A literal container takes its text only. -/
def addNode (element : OpenElement) (node : Node) (literalText : String) : OpenElement :=
  match element.literal with
  | .children => { element with reversed := node :: element.reversed }
  | _ => { element with buffer := element.buffer ++ literalText }

/-- Adds a text, joined to the text before it if there is one. -/
def addText (element : OpenElement) (text : String) (position : Position) : OpenElement :=
  match element.literal with
  | .children =>
    match element.reversed with
    | .text value before :: earlier =>
      let joined := match before with
        | some before => before.extendTo position
        | none => position
      { element with reversed := .text (value ++ text) (some joined) :: earlier }
    | earlier => { element with reversed := .text text (some position) :: earlier }
  | _ => { element with buffer := element.buffer ++ text }

/-- Adds an element without children. -/
def addLeaf (element : OpenElement) (kind : String) (value : Option String)
    (attributes : Attributes) (position : Position) : OpenElement :=
  element.addNode (.element kind value attributes [] (some position)) (value.getD "")

end OpenElement

/-- Marks the innermost list item among open containers. -/
def markTask (checked : Bool) : List OpenElement → List OpenElement
  | [] => []
  | element :: outer =>
    if element.kind = "listItem" then
      { element with attributes := element.attributes.insert "checked" (.flag checked) } :: outer
    else element :: markTask checked outer

/-- A tree being built: the open containers, and the records so far, the last one first. -/
structure Builder where
  index : LineIndex
  /-- The innermost open container. -/
  top : OpenElement
  /-- The containers around it, from the inside out. -/
  outer : List OpenElement
  records : List Log.Record

namespace Builder

/-- A builder for a source; its root covers the whole source. -/
def start (index : LineIndex) : Builder :=
  let root := ⟨"root", .empty, .children, some (index.position 0 index.size), [], ""⟩
  ⟨index, root, [], []⟩

/-- Opens a container. -/
def openTag (builder : Builder) (tag : Tag) (position : Position) : Builder :=
  { builder with top := .ofTag tag position, outer := builder.top :: builder.outer }

/-- Closes the innermost container. The root stays open. -/
def closeTag (builder : Builder) : Builder :=
  match builder.outer with
  | [] => { builder with records := .unbalancedEnd :: builder.records }
  | parent :: outer =>
    let node := builder.top.close
    { builder with top := parent.addNode node node.textContent, outer := outer }

/-- Takes one event with its range. -/
def feed (builder : Builder) (event : Event) (range : ByteRange) : Builder :=
  let position := builder.index.position range.start range.stop
  let leaf (kind : String) (value : Option String) (attributes : Attributes) : Builder :=
    { builder with top := builder.top.addLeaf kind value attributes position }
  let html (value : String) : Builder :=
    match builder.top.literal with
    | .value => { builder with top := { builder.top with buffer := builder.top.buffer ++ value } }
    | _ => leaf "html" (some value) .empty
  match event with
  | .openTag tag => builder.openTag tag position
  | .closeTag => builder.closeTag
  | .text value => { builder with top := builder.top.addText value position }
  | .softBreak => { builder with top := builder.top.addText "\n" position }
  | .code value => leaf "inlineCode" (some value) .empty
  | .inlineMath value => leaf "inlineMath" (some value) .empty
  | .displayMath value => leaf "math" (some value) .empty
  | .html value => html value
  | .inlineHtml value => html value
  | .footnoteReference label =>
    leaf "footnoteReference" none (Attributes.empty.insert "identifier" (.text label))
  | .hardBreak => leaf "break" none .empty
  | .rule => leaf "thematicBreak" none .empty
  | .taskMarker checked =>
    match markTask checked (builder.top :: builder.outer) with
    | top :: outer => { builder with top := top, outer := outer }
    | [] => builder

/-- Takes events one after another. -/
def feedAll (builder : Builder) (events : List (Event × ByteRange)) : Builder :=
  events.foldl (fun builder event => builder.feed event.1 event.2) builder

/-- The root that is left when each container is closed into the one around it. -/
def closeAll (top : OpenElement) : List OpenElement → Node
  | [] => top.close
  | parent :: outer =>
    let node := top.close
    closeAll (parent.addNode node node.textContent) outer

/-- Closes whatever is open, and gives the root. -/
def finish (builder : Builder) : Logged Node :=
  ⟨closeAll builder.top builder.outer, builder.records.reverse⟩

end Builder

/-- The tree of a source, from its events. -/
def treeOfEvents (source : String) (events : List (Event × ByteRange)) : Logged Node :=
  ((Builder.start (LineIndex.ofSource source)).feedAll events).finish

/-- A parser takes a source apart into events, each with the bytes that it covers. -/
abbrev Parser := String → List (Event × ByteRange)

/-- Reads a source into a document tree. -/
def Parser.read (parser : Parser) (source : String) : Logged Node := treeOfEvents source (parser source)

end Highlighter
