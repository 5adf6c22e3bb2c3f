/-!
# Events of a Markdown source

The flat form of a document: each container is an event that opens it and an event that closes it, around the
events of its content. Each event has the range of source bytes that it covers.
-/

namespace Highlighter

/-- What a container is. -/
inductive Tag where
  | paragraph
  | heading (depth : Nat)
  | quote
  /-- A code block; a fenced one has an info string, an indented one has none. -/
  | codeBlock (info : Option String)
  | htmlBlock
  /-- A list; an ordered one has the number of its first item. -/
  | list (start : Option Nat)
  | item
  | emphasis
  | strong
  | strikethrough
  | link (url title : String)
  | image (url title : String)
  | table
  | tableHead
  | tableRow
  | tableCell
  | footnoteDefinition (label : String)
  /-- A container that the tree has no kind for. -/
  | other
deriving DecidableEq, Repr, Inhabited

/-- A step through a document. -/
inductive Event where
  | openTag (tag : Tag)
  /-- Closes the container that was opened last. -/
  | closeTag
  | text (value : String)
  | code (value : String)
  | inlineMath (value : String)
  | displayMath (value : String)
  | html (value : String)
  | inlineHtml (value : String)
  | footnoteReference (label : String)
  | softBreak
  | hardBreak
  | rule
  | taskMarker (checked : Bool)
deriving DecidableEq, Repr, Inhabited

/-- A range of source bytes. -/
structure ByteRange where
  start : Nat
  stop : Nat
deriving DecidableEq, Repr, Inhabited

end Highlighter
