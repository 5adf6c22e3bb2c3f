import Highlighter.Delimiter
import Highlighter.Document.Node

/-!
# Splitting a text

Turns one text value into text and highlight nodes. Every node carries the position of the text, and no
empty text is made, except from the empty text itself.
-/

namespace Highlighter

/-- The node that shows a segment. -/
def Segment.toNode (position : Option Position) : Segment → Node
  | plain text => .text (String.ofList text) position
  | marked content => Node.span (String.ofList content) position

namespace Delimiter

/-- The nodes that take the place of a text, or nothing if the text has no span. -/
def splitIfNeeded (delimiter : Delimiter) (text : String) (position : Option Position) :
    Option (List Node) :=
  if delimiter.isMatch text then
    some ((segments delimiter.marker text.toList).map (Segment.toNode position))
  else none

/-- The nodes that a text is cut into. A text without a span stays one node. -/
def split (delimiter : Delimiter) (text : String) (position : Option Position) : List Node :=
  (delimiter.splitIfNeeded text position).getD [.text text position]

/-- There is something to split exactly if the text has a span. -/
theorem splitIfNeeded_isSome (delimiter : Delimiter) (text : String) (position : Option Position) :
    (delimiter.splitIfNeeded text position).isSome = delimiter.isMatch text := by
  unfold splitIfNeeded
  split <;> simp_all

end Delimiter

end Highlighter
