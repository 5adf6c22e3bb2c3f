import Highlighter.Document.Node
import Highlighter.Json.Value

/-!
# Tree dump

The JSON form of a document tree. The fields of a node stand in the order kind, value, attributes by
name, children, position; a field without content is left out, but a highlight always shows its
children. An attribute with the name of another field makes a second field of that name.
-/

namespace Highlighter

/-- A place as an object. -/
def Point.toJson (point : Point) : Json :=
  .object [("line", .number point.line), ("column", .number point.column),
    ("offset", .number point.offset)]

/-- A range as an object. -/
def Position.toJson (position : Position) : Json :=
  .object [("start", position.start.toJson), ("end", position.stop.toJson)]

/-- An attribute value as it is. -/
def Attribute.toJson : Attribute → Json
  | .flag value => .bool value
  | .number value => .number value
  | .text value => .string value

namespace Node

/-- The position field, if the position is known. -/
def positionField (position : Option Position) : List (String × Json) :=
  (position.map fun position => ("position", position.toJson)).toList

/-- The value field, if there is a value. -/
def valueField (value : Option String) : List (String × Json) :=
  (value.map fun value => ("value", Json.string value)).toList

/-- The attributes as fields. -/
def attributeFields (attributes : Attributes) : List (String × Json) :=
  attributes.entries.map fun entry => (entry.1, entry.2.toJson)

mutual

/-- The tree as a JSON value. -/
def toJson : Node → Json
  | .text value position =>
    .object ([("type", .string "text"), ("value", .string value)] ++ positionField position)
  | .highlight value children position =>
    .object ([("type", .string "highlight"), ("value", .string value),
      ("children", .array (toJsons children))] ++ positionField position)
  | .element kind value attributes [] position =>
    .object (("type", .string kind) :: (valueField value ++ attributeFields attributes
      ++ positionField position))
  | .element kind value attributes (child :: children) position =>
    .object (("type", .string kind) :: (valueField value ++ attributeFields attributes
      ++ [("children", .array (toJsons (child :: children)))] ++ positionField position))

/-- The trees of a list as JSON values. -/
def toJsons : List Node → List Json
  | [] => []
  | node :: nodes => node.toJson :: toJsons nodes

end

/-- The tree dump on one line. -/
def dump (node : Node) : String := node.toJson.compact

/-- The tree dump over indented lines. -/
def dumpIndented (node : Node) : String := node.toJson.pretty 0

end Node

end Highlighter
