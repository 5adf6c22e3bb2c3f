import Highlighter.Toml.Scalar

/-!
# Quoted strings

A string stands in double quotes, where a backslash begins an escape, or in single quotes, where every character is
itself. Three quotes on either side allow for line ends inside.

The second half of this module chooses the form in which a string is written: the first of the four in which nothing
has to be escaped, or else double quotes with escapes.
-/

namespace Highlighter.Toml

/-- A character that may stand in a string as it is, line ends apart. -/
def isStringChar (c : Char) : Bool := c = '\t' || (32 ≤ c.toNat && c.toNat ≠ 127)

/-! ## Escapes -/

/-- The character with a code point, unless there is none. -/
def charOfCode? (code : Nat) : Option Char :=
  if code.isValidChar then some (Char.ofNat code) else none

/-- Reads a character by a code point of so many digits in base 16. -/
def codePoint? (count : Nat) (text : List Char) : Option (Char × List Char) := do
  let digits := text.take count
  if digits.length < count then none
  else some (← charOfCode? (← number? 16 digits), text.drop count)

/-- The character that a letter behind a backslash stands for. -/
def escapedBy? : Char → Option Char
  | 'b' => some '\x08'
  | 't' => some '\t'
  | 'n' => some '\n'
  | 'f' => some '\x0c'
  | 'r' => some '\r'
  | 'e' => some '\x1b'
  | '"' => some '"'
  | '\\' => some '\\'
  | _ => none

/-- How many digits of a code point a letter behind a backslash announces. -/
def codeLength? : Char → Option Nat
  | 'x' => some 2
  | 'u' => some 4
  | 'U' => some 8
  | _ => none

/-- Reads an escape behind its backslash. -/
def escape? : List Char → Option (Char × List Char)
  | [] => none
  | letter :: text =>
    match escapedBy? letter with
    | some c => some (c, text)
    | none => (codeLength? letter).bind (codePoint? · text)

theorem length_of_codePoint? {count : Nat} {text rest : List Char} {c : Char}
    (h : codePoint? count text = some (c, rest)) : rest.length ≤ text.length := by
  unfold codePoint? at h
  dsimp only at h
  split at h
  · contradiction
  · simp only [Option.bind_eq_bind, Option.bind_eq_some_iff, Option.some.injEq, Prod.mk.injEq] at h
    obtain ⟨_, _, _, _, _, rfl⟩ := h
    simp

/-- An escape takes at least one character. -/
theorem length_of_escape? {text rest : List Char} {c : Char} (h : escape? text = some (c, rest)) :
    rest.length < text.length := by
  unfold escape? at h
  split at h
  · contradiction
  · split at h
    · simp only [Option.some.injEq, Prod.mk.injEq] at h
      simp [← h.2]
    · -- The escape of a code point takes its digits as well.
      obtain ⟨count, _, hpoint⟩ := Option.bind_eq_some_iff.mp h
      have hle := length_of_codePoint? hpoint
      simp only [List.length_cons]
      omega

/-! ## Reading -/

/-- Reads a string in double quotes behind the opening one. -/
def basicString? (text : List Char) : Option (List Char × List Char) :=
  match text with
  | [] => none
  | '"' :: rest => some ([], rest)
  | '\\' :: rest =>
    match _h : escape? rest with
    | none => none
    | some (c, rest) => (basicString? rest).map fun (value, rest) => (c :: value, rest)
  | c :: rest =>
    if isStringChar c then (basicString? rest).map fun (value, rest) => (c :: value, rest)
    else none
termination_by text.length
decreasing_by
  · have := length_of_escape? _h
    simp only [List.length_cons]
    omega
  · simp

/-- Reads a string in single quotes behind the opening one. -/
def literalString? : List Char → Option (List Char × List Char)
  | [] => none
  | '\'' :: rest => some ([], rest)
  | c :: rest =>
    if isStringChar c then (literalString? rest).map fun (value, rest) => (c :: value, rest)
    else none

/-- Passes over a line end. -/
def lineEnd? : List Char → Option (List Char)
  | '\n' :: text => some text
  | '\r' :: '\n' :: text => some text
  | _ => none

/-- A space or a tab. -/
def isBlank (c : Char) : Bool := c = ' ' || c = '\t'

/-- Passes over blanks and line ends. -/
def skipLines : List Char → List Char
  | '\n' :: text => skipLines text
  | '\r' :: '\n' :: text => skipLines text
  | c :: text => if isBlank c then skipLines text else c :: text
  | [] => []

theorem length_skipLines_le (text : List Char) : (skipLines text).length ≤ text.length := by
  fun_induction skipLines text <;> simp_all <;> omega

/-- Passes over the rest of a line that a backslash ends, and the white space that follows. -/
def continuation? (text : List Char) : Option (List Char) :=
  (lineEnd? (text.dropWhile isBlank)).map skipLines

theorem length_of_lineEnd? {text rest : List Char} (h : lineEnd? text = some rest) :
    rest.length < text.length := by
  unfold lineEnd? at h
  split at h
  · simp_all
  · simp only [Option.some.injEq] at h
    simp only [List.length_cons, ← h]
    omega
  · contradiction

theorem length_of_continuation? {text rest : List Char} (h : continuation? text = some rest) :
    rest.length < text.length := by
  obtain ⟨after, hafter, rfl⟩ := Option.map_eq_some_iff.mp h
  have h1 := length_of_lineEnd? hafter
  have h2 := (List.dropWhile_suffix (l := text) isBlank).length_le
  have h3 := length_skipLines_le after
  omega

/-- Reads a string in three double quotes behind the opening ones. Of more than three quotes at the end, the first are
part of the string. -/
def basicLines? (text : List Char) : Option (List Char × List Char) :=
  match text with
  | [] => none
  | '"' :: '"' :: '"' :: '"' :: '"' :: rest => some (['"', '"'], rest)
  | '"' :: '"' :: '"' :: '"' :: rest => some (['"'], rest)
  | '"' :: '"' :: '"' :: rest => some ([], rest)
  | '\\' :: rest =>
    match _hc : continuation? rest with
    | some rest => basicLines? rest
    | none =>
      match _he : escape? rest with
      | none => none
      | some (c, rest) => (basicLines? rest).map fun (value, rest) => (c :: value, rest)
  | '\r' :: '\n' :: rest =>
    (basicLines? rest).map fun (value, rest) => ('\r' :: '\n' :: value, rest)
  | c :: rest =>
    if c = '\n' ∨ isStringChar c then
      (basicLines? rest).map fun (value, rest) => (c :: value, rest)
    else none
termination_by text.length
decreasing_by
  · have := length_of_continuation? _hc
    simp only [List.length_cons]
    omega
  · have := length_of_escape? _he
    simp only [List.length_cons]
    omega
  · simp only [List.length_cons]
    omega
  · simp

/-- Reads a string in three single quotes behind the opening ones. -/
def literalLines? : List Char → Option (List Char × List Char)
  | [] => none
  | '\'' :: '\'' :: '\'' :: '\'' :: '\'' :: rest => some (['\'', '\''], rest)
  | '\'' :: '\'' :: '\'' :: '\'' :: rest => some (['\''], rest)
  | '\'' :: '\'' :: '\'' :: rest => some ([], rest)
  | '\r' :: '\n' :: rest =>
    (literalLines? rest).map fun (value, rest) => ('\r' :: '\n' :: value, rest)
  | c :: rest =>
    if c = '\n' ∨ isStringChar c then
      (literalLines? rest).map fun (value, rest) => (c :: value, rest)
    else none

/-- Leaves out a line end right behind three quotes. -/
def dropFirstLineEnd (text : List Char) : List Char := (lineEnd? text).getD text

/-- Reads a string in one of its forms. -/
def string? : List Char → Option (List Char × List Char)
  | '"' :: '"' :: '"' :: text => basicLines? (dropFirstLineEnd text)
  | '\'' :: '\'' :: '\'' :: text => literalLines? (dropFirstLineEnd text)
  | '"' :: text => basicString? text
  | '\'' :: text => literalString? text
  | _ => none

/-! ## Writing -/

/-- A control character other than a newline. -/
def isControl (c : Char) : Bool := c ≠ '\n' && (c.toNat < 32 || c.toNat = 127)

/-- The length of the longest run of a character in a text. -/
def longestRun (c : Char) (text : List Char) : Nat :=
  (text.foldl (fun (run, longest) d =>
    if d = c then (run + 1, max longest (run + 1)) else (0, longest)) (0, 0)).2

/-- The code point of a character in base 16: four digits in upper case. -/
def fourDigits (c : Char) : List Char :=
  let digits := (Nat.toDigits 16 c.toNat).map Char.toUpper
  List.replicate (4 - digits.length) '0' ++ digits

/-- How a character is written that cannot stand as itself between double quotes. -/
def escapeChar (c : Char) : List Char :=
  match c with
  | '\x08' => ['\\', 'b']
  | '\t' => ['\\', 't']
  | '\n' => ['\\', 'n']
  | '\x0c' => ['\\', 'f']
  | '\r' => ['\\', 'r']
  | '"' => ['\\', '"']
  | '\\' => ['\\', '\\']
  | c => '\\' :: 'u' :: fourDigits c

/-- Writes the characters of a string between double quotes. Of a run of quotes, so many stand as themselves before
one is escaped; a newline stands as itself where there are lines. -/
def escapeChars (lines : Bool) (plainQuotes : Nat) : Nat → List Char → List Char
  | _, [] => []
  | run, c :: text =>
    if c = '"' then
      if run < plainQuotes then c :: escapeChars lines plainQuotes (run + 1) text
      else escapeChar c ++ escapeChars lines plainQuotes 0 text
    else if c = '\\' ∨ isControl c ∨ (c = '\n' ∧ !lines) then
      escapeChar c ++ escapeChars lines plainQuotes 0 text
    else c :: escapeChars lines plainQuotes 0 text

/-- Puts three quotes around a text, and a line end behind the first three if the text has one. -/
def inThree (quote : Char) (lines : Bool) (text : List Char) : List Char :=
  let quotes := [quote, quote, quote]
  quotes ++ (if lines then ['\n'] else []) ++ text ++ quotes

/-- Writes a string in the first form that shows it without escapes, or else with escapes. -/
def quoteChars (text : List Char) : List Char :=
  let lines := text.contains '\n'
  let plain := !text.any isControl
  if plain && !lines && !text.contains '\\' && !text.contains '"' then '"' :: text ++ ['"']
  else if plain && !lines && !text.contains '\'' then '\'' :: text ++ ['\'']
  else if plain && !text.contains '\\' && longestRun '"' text < 3 then inThree '"' lines text
  else if plain && longestRun '\'' text < 3 then inThree '\'' lines text
  else if lines then inThree '"' lines (escapeChars true 2 0 text)
  else '"' :: escapeChars false 0 0 text ++ ['"']

/-- Writes a string. -/
def quote (text : String) : String := String.ofList (quoteChars text.toList)

end Highlighter.Toml
