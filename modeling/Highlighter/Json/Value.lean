/-!
# JSON values and their text

The values that the tree dump needs, with fields in the order in which they are written, and two
layouts: a compact one without blanks, and an indented one with two spaces a level.

In a string only the quote, the backslash and the code points below U+0020 are escaped.
-/

namespace Highlighter

/-- A JSON value. An object is a list of fields, in order; a name may occur twice. -/
inductive Json where
  | bool (value : Bool)
  | number (value : Nat)
  | string (value : String)
  | array (items : List Json)
  | object (fields : List (String × Json))
deriving Inhabited

namespace Json

/-! ## Strings -/

/-- The hexadecimal digit of a value below 16, in lower case. -/
def hexDigit (n : Nat) : Char :=
  if n < 10 then Char.ofNat (48 + n) else Char.ofNat (87 + n)

/-- The text of one code point inside a JSON string. -/
def escapeChar (c : Char) : List Char :=
  if c = '"' then ['\\', '"']
  else if c = '\\' then ['\\', '\\']
  else if c.toNat = 8 then ['\\', 'b']
  else if c.toNat = 9 then ['\\', 't']
  else if c.toNat = 10 then ['\\', 'n']
  else if c.toNat = 12 then ['\\', 'f']
  else if c.toNat = 13 then ['\\', 'r']
  else if c.toNat < 32 then ['\\', 'u', '0', '0', hexDigit (c.toNat / 16), hexDigit (c.toNat % 16)]
  else [c]

/-- A string in quotes. -/
def quote (text : String) : String :=
  String.ofList ('"' :: (text.toList.flatMap escapeChar ++ ['"']))

/-! ## Compact layout -/

mutual

/-- The text of a value without blanks. -/
def compact : Json → String
  | .bool true => "true"
  | .bool false => "false"
  | .number n => toString n
  | .string text => quote text
  | .array [] => "[]"
  | .array (item :: items) => "[" ++ compact item ++ compactItems items ++ "]"
  | .object [] => "\x7b\x7d"
  | .object (field :: fields) => "\x7b" ++ compactField field ++ compactFields fields ++ "\x7d"

/-- The further items of an array, each after a comma. -/
def compactItems : List Json → String
  | [] => ""
  | item :: items => "," ++ compact item ++ compactItems items

/-- A field with its name. -/
def compactField : String × Json → String
  | (name, value) => quote name ++ ":" ++ compact value

/-- The further fields of an object, each after a comma. -/
def compactFields : List (String × Json) → String
  | [] => ""
  | field :: fields => "," ++ compactField field ++ compactFields fields

end

/-! ## Indented layout -/

/-- A line break followed by two spaces for each level. -/
def newLine (level : Nat) : String := String.ofList ('\n' :: List.replicate (2 * level) ' ')

mutual

/-- The text of a value at a level, each item and field on a line of its own. -/
def pretty (level : Nat) : Json → String
  | .bool true => "true"
  | .bool false => "false"
  | .number n => toString n
  | .string text => quote text
  | .array [] => "[]"
  | .array (item :: items) =>
    "[" ++ newLine (level + 1) ++ pretty (level + 1) item ++ prettyItems (level + 1) items
      ++ newLine level ++ "]"
  | .object [] => "\x7b\x7d"
  | .object (field :: fields) =>
    "\x7b" ++ newLine (level + 1) ++ prettyField (level + 1) field
      ++ prettyFields (level + 1) fields ++ newLine level ++ "\x7d"

/-- The further items of an array, each after a comma and a line break. -/
def prettyItems (level : Nat) : List Json → String
  | [] => ""
  | item :: items => "," ++ newLine level ++ pretty level item ++ prettyItems level items

/-- A field with its name. -/
def prettyField (level : Nat) : String × Json → String
  | (name, value) => quote name ++ ": " ++ pretty level value

/-- The further fields of an object, each after a comma and a line break. -/
def prettyFields (level : Nat) : List (String × Json) → String
  | [] => ""
  | field :: fields => "," ++ newLine level ++ prettyField level field ++ prettyFields level fields

end

end Json

end Highlighter
