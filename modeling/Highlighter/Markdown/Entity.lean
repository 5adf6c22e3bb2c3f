import Std.Data.HashMap
import Highlighter.Markdown.EntityTable
import Highlighter.Markdown.Source

/-!
# Character references and escapes

A reference names characters (`&copy;`) or gives a code point in base 10 or 16 (`&#169;`, `&#xA9;`). Outside
of code, references stand for their characters, and a backslash takes the meaning from a punctuation
character.
-/

namespace Highlighter.Markdown

/-- The value of a digit in base 10 or 16. -/
def digitValue (c : Char) : Nat :=
  if c.isDigit then c.toNat - 48
  else if 'a' ≤ c ∧ c ≤ 'f' then c.toNat - 87
  else c.toNat - 55

/-- Whether a character is a digit in base 16. -/
def isHexDigit (c : Char) : Bool :=
  c.isDigit || ('a' ≤ c && c ≤ 'f') || ('A' ≤ c && c ≤ 'F')

/-- The number that digits write in a base. -/
def numberOfDigits (base : Nat) (digits : List Char) : Nat :=
  digits.foldl (fun n c => n * base + digitValue c) 0

/-- An entry of the table of names: the name, and the characters it stands for. -/
def entityOfEntry (entry : String) : String × String :=
  match entry.splitOn " " with
  | [] => ("", "")
  | name :: codes =>
    (name, String.ofList (codes.map fun code => Char.ofNat (numberOfDigits 16 code.toList)))

/-- The characters that names stand for. -/
def entities : Std.HashMap String String :=
  Std.HashMap.ofList ((entityTable.flatMap (·.splitOn ",")).map entityOfEntry)

/-- The character of a numeric reference. Zero stands for the replacement character; a number that is no code
point stands for nothing. -/
def charOfReference? (n : Nat) : Option Char :=
  if n = 0 then some '\ufffd' else if n.isValidChar then some (Char.ofNat n) else none

namespace Source

/-- At most so many characters of a class from an index on. -/
def takeClass (source : Source) (p : Char → Bool) (bound index : Nat) : List Char :=
  source.slice index (min (source.skipWhile p index) (index + bound))

/-- Reads a numeric reference behind its number sign. -/
def numericReference? (source : Source) (index : Nat) : Option (Nat × String) :=
  let hex := source.hasAt index 'x' || source.hasAt index 'X'
  let start := if hex then index + 1 else index
  let digits := if hex then source.takeClass isHexDigit 6 start
    else source.takeClass Char.isDigit 7 start
  let stop := start + digits.length
  if digits.isEmpty || !source.hasAt stop ';' then none
  else
    (charOfReference? (numberOfDigits (if hex then 16 else 10) digits)).map fun c =>
      (stop + 1, String.singleton c)

/-- Reads a reference at an ampersand: where it ends, and the characters it stands for. -/
def reference? (source : Source) (index : Nat) : Option (Nat × String) :=
  if source.hasAt (index + 1) '#' then source.numericReference? (index + 2)
  else
    let stop := source.skipWhile Char.isAlphanum (index + 1)
    if source.hasAt stop ';' then
      (entities.get? (source.text (index + 1) stop)).map fun value => (stop + 1, value)
    else none

end Source

/-- The text between two indices, with escapes and references resolved and carriage returns dropped. In a
table a pipe behind two backslashes stands for itself. -/
def unescapeFrom (source : Source) (inTable : Bool) (index : Nat) : List Char :=
  if h : index < source.chars.size then
    let c := source.chars[index]
    if c = '\\' ∧ inTable ∧ source.hasAt (index + 1) '\\' ∧ source.hasAt (index + 2) '|' then
      '|' :: unescapeFrom source inTable (index + 3)
    else if c = '\\' ∧ source.isAt (index + 1) isAsciiPunctuation then
      source.slice (index + 1) (index + 2) ++ unescapeFrom source inTable (index + 2)
    else if c = '&' then
      match source.reference? index with
      | some (stop, value) =>
        if index < stop then value.toList ++ unescapeFrom source inTable stop
        else c :: unescapeFrom source inTable (index + 1)
      | none => c :: unescapeFrom source inTable (index + 1)
    else if c = '\r' then unescapeFrom source inTable (index + 1)
    else c :: unescapeFrom source inTable (index + 1)
  else []
termination_by source.chars.size - index

/-- A text with escapes and references resolved and carriage returns dropped. -/
def unescape (inTable : Bool) (text : List Char) : String :=
  String.ofList (unescapeFrom ⟨text.toArray⟩ inTable 0)

end Highlighter.Markdown
