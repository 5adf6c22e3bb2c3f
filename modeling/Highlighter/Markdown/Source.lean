/-!
# The characters of a Markdown source

Readers of Markdown look at a source by the index of its characters: they pass over runs of a class, look
for line ends, and cut pieces out. An index past the end reads as no character.
-/

namespace Highlighter.Markdown

/-- A source, or its beginning, by character index. -/
structure Source where
  chars : Array Char
deriving Inhabited

/-- The horizontal blanks: space, tab, vertical tab and form feed. -/
def isBlank (c : Char) : Bool := c = ' ' || c = '\t' || c = '\x0b' || c = '\x0c'

/-- The blanks and the two characters that end a line. -/
def isSpace (c : Char) : Bool := isBlank c || c = '\n' || c = '\r'

/-- The punctuation characters of ASCII, which a backslash escapes. -/
def isAsciiPunctuation (c : Char) : Bool :=
  let n := c.toNat
  (33 ≤ n && n ≤ 47) || (58 ≤ n && n ≤ 64) || (91 ≤ n && n ≤ 96) || (123 ≤ n && n ≤ 126)

namespace Source

/-- The characters of a text. -/
def ofString (text : String) : Source := ⟨text.toList.toArray⟩

/-- The number of characters. -/
def size (source : Source) : Nat := source.chars.size

/-- The character at an index. -/
def at? (source : Source) (index : Nat) : Option Char := source.chars[index]?

/-- Whether the character at an index is of a class. -/
def isAt (source : Source) (index : Nat) (p : Char → Bool) : Bool :=
  (source.at? index).any p

/-- Whether a character stands at an index. -/
def hasAt (source : Source) (index : Nat) (c : Char) : Bool := source.at? index == some c

/-- Whether a word stands at an index. -/
def startsWith (source : Source) (index : Nat) : List Char → Bool
  | [] => true
  | c :: word => source.hasAt index c && source.startsWith (index + 1) word

/-- The source up to an index. -/
def upTo (source : Source) (stop : Nat) : Source := ⟨source.chars.extract 0 stop⟩

/-- The characters between two indices. -/
def slice (source : Source) (start stop : Nat) : List Char :=
  (source.chars.extract start stop).toList

/-- The text between two indices. -/
def text (source : Source) (start stop : Nat) : String := String.ofList (source.slice start stop)

/-- The first index from which on no character of a class follows. -/
def skipWhile (source : Source) (p : Char → Bool) (index : Nat) : Nat :=
  if h : index < source.chars.size then
    if p source.chars[index] then source.skipWhile p (index + 1) else index
  else index
termination_by source.chars.size - index

/-- How many times a character follows from an index on. -/
def countRun (source : Source) (c : Char) (index : Nat) : Nat :=
  source.skipWhile (· == c) index - index

/-- The least index, not below a bound, from which only characters of a class stand before an index. -/
def skipBack (source : Source) (p : Char → Bool) (low : Nat) : Nat → Nat
  | 0 => 0
  | index + 1 =>
    if low ≤ index ∧ source.isAt index p then source.skipBack p low index else index + 1

/-- Passes over blanks. -/
def skipBlanks (source : Source) (index : Nat) : Nat := source.skipWhile isBlank index

/-- Passes over a line end at an index. The end of the source ends a line as well. -/
def lineEnd? (source : Source) (index : Nat) : Option Nat :=
  match source.at? index with
  | none => some index
  | some '\n' => some (index + 1)
  | some '\r' => some (if source.hasAt (index + 1) '\n' then index + 2 else index + 1)
  | some _ => none

/-- Passes over the rest of a line if it is blank. -/
def blankLine? (source : Source) (index : Nat) : Option Nat :=
  source.lineEnd? (source.skipBlanks index)

/-- The index after the next newline, or the end. -/
def nextLine (source : Source) (index : Nat) : Nat :=
  min (source.skipWhile (· != '\n') index + 1) (max index source.size)

/-- The offsets at which the characters start in the UTF-8 encoding, and at last its length. -/
def byteOffsets (source : Source) : Array Nat :=
  source.chars.foldl (fun offsets c => offsets.push (offsets.back?.getD 0 + c.utf8Size)) #[0]

end Source

end Highlighter.Markdown
