import Highlighter.Document.Node
import Highlighter.Html.Escape

/-!
# HTML of a tree

A renderer looks up the kind of each node among its handlers first. A kind without a handler has a
built-in form; any other node is shown as a `div` around its children, or as its value if it has none.

A handler is given the node and the HTML of its children. Raw HTML is left out unless the renderer passes it
through.
-/

namespace Highlighter

/-- The style of a highlight unless another is asked for. -/
def defaultStyle : String := "color:red;font-weight:bold"

/-- Writes a node, given the HTML of its children. So it reads neither the handlers beside it nor what was written
before the node, and it writes no other nodes than the children; what is said of all renderers is said of those with
such handlers. -/
abbrev Handler := Node → String → String

namespace Handler

/-- A styled span around the children. -/
def styled (style : String) : Handler := fun _ children =>
  "<span style=\"" ++ Html.escapeAttribute style ++ "\">" ++ children ++ "</span>"

/-- A tag around the children. -/
def wrapped (tag : String) : Handler := fun _ children =>
  "<" ++ tag ++ ">" ++ children ++ "</" ++ tag ++ ">"

/-- A fixed text, written as it is. -/
def fixed (text : String) : Handler := fun _ _ => text

end Handler

/-- How a tree is written as HTML. -/
structure Renderer where
  /-- The handlers by kind; the first one of a kind counts. -/
  handlers : List (String × Handler)
  /-- Whether raw HTML is passed through. -/
  allowHtml : Bool

namespace Renderer

/-- A renderer without handlers, which leaves raw HTML out. -/
def plain : Renderer := ⟨[], false⟩

/-- Registers a handler for a kind, in place of an earlier one. -/
def register (renderer : Renderer) (kind : String) (handler : Handler) : Renderer :=
  { renderer with handlers := (kind, handler) :: renderer.handlers.filter (·.1 ≠ kind) }

/-- The handler for a kind. -/
def handler? (renderer : Renderer) (kind : String) : Option Handler :=
  renderer.handlers.lookup kind

/-- A renderer that shows highlights in the usual style. -/
def standard : Renderer := plain.register "highlight" (.styled defaultStyle)

/-- Whether a kind has a handler. -/
def hasHandler (renderer : Renderer) (kind : String) : Bool := (renderer.handler? kind).isSome

/-! ## Built-in forms -/

/-- The attribute with the title, if there is a title. -/
def titleAttribute (attributes : Attributes) : String :=
  match attributes.text? "title" with
  | some title => " title=\"" ++ Html.escapeAttribute title ++ "\""
  | none => ""

/-- An escaped attribute value; an absent attribute counts as empty. -/
def escaped (attributes : Attributes) (name : String) : String :=
  Html.escapeAttribute ((attributes.text? name).getD "")

/-- The tag that opens a list. -/
def listOpening (attributes : Attributes) : String :=
  if (attributes.flag? "ordered").getD false then
    match attributes.number? "start" with
    | some start => if start = 1 then "<ol>\n" else "<ol start=\"" ++ toString start ++ "\">\n"
    | none => "<ol>\n"
  else "<ul>\n"

/-- The tag that closes a list. -/
def listClosing (attributes : Attributes) : String :=
  if (attributes.flag? "ordered").getD false then "</ol>\n" else "</ul>\n"

/-- The check box of a task. -/
def checkBox (attributes : Attributes) : String :=
  match attributes.flag? "checked" with
  | some true => "<input type=\"checkbox\" disabled checked /> "
  | some false => "<input type=\"checkbox\" disabled /> "
  | none => ""

/-- The tag of a heading; its depth is brought into the range from 1 to 6. -/
def headingTag (attributes : Attributes) : String :=
  "h" ++ toString (max 1 (min 6 ((attributes.number? "depth").getD 1)))

/-- A code block. A value that is not empty gets the newline back that ends its last line. -/
def codeBlock (value : String) (attributes : Attributes) : String :=
  let opening := match attributes.text? "lang" with
    | some lang => "<pre><code class=\"language-" ++ Html.escapeAttribute lang ++ "\">"
    | none => "<pre><code>"
  opening ++ Html.escapeText value ++ (if value = "" then "" else "\n") ++ "</code></pre>\n"

/-- The form of an element that is not a table row, given the HTML of its children. A kind that is not known
has no built-in form. -/
def builtIn? (renderer : Renderer) (kind : String) (value : String) (attributes : Attributes)
    (children : String) : Option String :=
  match kind with
  | "root" => some children
  | "paragraph" => some ("<p>" ++ children ++ "</p>\n")
  | "heading" =>
    let tag := headingTag attributes
    some ("<" ++ tag ++ ">" ++ children ++ "</" ++ tag ++ ">\n")
  | "blockquote" => some ("<blockquote>\n" ++ children ++ "</blockquote>\n")
  | "list" => some (listOpening attributes ++ children ++ listClosing attributes)
  | "listItem" => some ("<li>" ++ checkBox attributes ++ children ++ "</li>\n")
  | "emphasis" => some ("<em>" ++ children ++ "</em>")
  | "strong" => some ("<strong>" ++ children ++ "</strong>")
  | "delete" => some ("<del>" ++ children ++ "</del>")
  | "inlineCode" => some ("<code>" ++ Html.escapeText value ++ "</code>")
  | "code" => some (codeBlock value attributes)
  | "inlineMath" =>
    some ("<code class=\"language-math math-inline\">" ++ Html.escapeText value ++ "</code>")
  | "math" =>
    some ("<pre><code class=\"language-math math-display\">" ++ Html.escapeText value
      ++ "</code></pre>\n")
  | "link" =>
    some ("<a href=\"" ++ escaped attributes "url" ++ "\"" ++ titleAttribute attributes ++ ">"
      ++ children ++ "</a>")
  | "image" =>
    some ("<img src=\"" ++ escaped attributes "url" ++ "\" alt=\"" ++ escaped attributes "alt"
      ++ "\"" ++ titleAttribute attributes ++ " />")
  | "thematicBreak" => some "<hr />\n"
  | "break" => some "<br />\n"
  | "html" => some (if renderer.allowHtml then value else "")
  | "table" => some ("<table>\n" ++ children ++ "</table>\n")
  | "footnoteReference" =>
    let id := escaped attributes "identifier"
    some ("<sup><a href=\"#fn-" ++ id ++ "\">" ++ id ++ "</a></sup>")
  | "footnoteDefinition" =>
    some ("<div id=\"fn-" ++ escaped attributes "identifier" ++ "\">\n" ++ children ++ "</div>\n")
  | _ => none

/-- The tag of the cells of a table row. -/
def cellTag (attributes : Attributes) : String :=
  if (attributes.flag? "head").getD false then "th" else "td"

/-- A cell of a table row. -/
def cell (tag content : String) : String := "<" ++ tag ++ ">" ++ content ++ "</" ++ tag ++ ">\n"

/-- The form of a node that nothing else is known about: a `div` around its children, or its value. -/
def fallback (value : String) (hasChildren : Bool) (children : String) : String :=
  if hasChildren then "<div>" ++ children ++ "</div>" else Html.escapeText value

/-! ## Whole trees -/

mutual

/-- The HTML of a node. -/
def render (renderer : Renderer) : Node → String
  | .text value position =>
    match renderer.handler? "text" with
    | some handler => handler (.text value position) ""
    | none => Html.escapeText value
  | .highlight value children position =>
    match renderer.handler? "highlight" with
    | some handler =>
      handler (.highlight value children position) (renderer.renderAll children)
    | none => fallback value (!children.isEmpty) (renderer.renderAll children)
  | .element kind value attributes children position =>
    match renderer.handler? kind with
    | some handler =>
      handler (.element kind value attributes children position) (renderer.renderAll children)
    | none =>
      if kind = "tableRow" then
        "<tr>\n" ++ renderer.renderCells (cellTag attributes) children ++ "</tr>\n"
      else
        let inner := renderer.renderAll children
        (renderer.builtIn? kind (value.getD "") attributes inner).getD
          (fallback (value.getD "") (!children.isEmpty) inner)

/-- The HTML of siblings, one after another. -/
def renderAll (renderer : Renderer) : List Node → String
  | [] => ""
  | node :: nodes => renderer.render node ++ renderer.renderAll nodes

/-- The cells of a table row: each child becomes a cell around its own children. -/
def renderCells (renderer : Renderer) (tag : String) : List Node → String
  | [] => ""
  | .text .. :: nodes => cell tag "" ++ renderer.renderCells tag nodes
  | .highlight _ children _ :: nodes =>
    cell tag (renderer.renderAll children) ++ renderer.renderCells tag nodes
  | .element _ _ _ children _ :: nodes =>
    cell tag (renderer.renderAll children) ++ renderer.renderCells tag nodes

end

end Renderer

end Highlighter
