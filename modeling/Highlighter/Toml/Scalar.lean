/-!
# Values

What the keys of a document stand for. Numbers, points in time and truth values are written without quotes, and are
told from one another by their form alone. Numbers that are no integers and points in time are kept as they are written.
-/

namespace Highlighter.Toml

/-- A value. -/
inductive Value where
  | string (value : String)
  | integer (value : Int)
  | float (text : String)
  | boolean (value : Bool)
  | dateTime (text : String)
  | array (items : List Value)
  | table (entries : List (String × Value))

/-- The keys of a table with their values, in the order in which they were written. -/
abbrev Table := List (String × Value)

/-! ## Digits -/

/-- The value of a digit in base 16. -/
def digitValue? (c : Char) : Option Nat :=
  if c.isDigit then some (c.toNat - 48)
  else if 'a' ≤ c ∧ c ≤ 'f' then some (c.toNat - 87)
  else if 'A' ≤ c ∧ c ≤ 'F' then some (c.toNat - 55)
  else none

/-- The number that digits write in a base, unless one of them is too large. -/
def number? (base : Nat) (digits : List Char) : Option Nat :=
  digits.foldlM (fun value c => do
    let digit ← digitValue? c
    if digit < base then some (value * base + digit) else none) 0

/-- Digits without the underscores between them. An underscore stands between two digits only. -/
def ungroup : List Char → Option (List Char)
  | [] => none
  | [c] => if c = '_' then none else some [c]
  | c :: '_' :: digits => if c = '_' then none else (ungroup digits).map (c :: ·)
  | c :: digits => if c = '_' then none else (ungroup digits).map (c :: ·)

/-- Decimal digits, of which the first is no zero unless it is the only one. -/
def decimal? (text : List Char) : Option (List Char) := do
  let digits ← ungroup text
  if digits.all Char.isDigit ∧ (digits.head? ≠ some '0' ∨ digits.length = 1) then some digits
  else none

/-- A sign in front of a text, taken off: whether the text is negative. -/
def takeSign : List Char → Bool × List Char
  | '-' :: text => (true, text)
  | '+' :: text => (false, text)
  | text => (false, text)

/-! ## Integers -/

/-- An integer, unless it takes more than 128 bits, with or without a sign. -/
def boundedInteger? (value : Int) : Option Value :=
  let half := Nat.pow 2 127
  if -(half : Int) ≤ value ∧ value < (half + half : Nat) then some (.integer value) else none

/-- Reads an integer in a base, behind the letter for the base. -/
def basedInteger? (base : Nat) (text : List Char) : Option Value := do
  boundedInteger? (← number? base (← ungroup text))

/-- Reads an integer. -/
def integer? : List Char → Option Value
  | '0' :: 'x' :: text => basedInteger? 16 text
  | '0' :: 'o' :: text => basedInteger? 8 text
  | '0' :: 'b' :: text => basedInteger? 2 text
  | text => do
    let (negative, digits) := takeSign text
    let value ← number? 10 (← decimal? digits)
    boundedInteger? (if negative then -(value : Int) else value)

/-! ## Floats -/

/-- The least decimal number that is no double any more, as a multiple of a power of two: half a unit above the largest
double. -/
def doubleBound : Nat := (Nat.pow 2 54 - 1) * Nat.pow 2 970

/-- Whether a double can come near to `digits * 10 ^ exponent`. -/
def fitsDouble (digits : Nat) (exponent : Int) : Bool :=
  let magnitude : Int := (Nat.toDigits 10 digits).length + exponent
  if digits = 0 ∨ magnitude < 300 then true
  else if magnitude > 320 then false
  else
    match exponent with
    | .ofNat up => digits * Nat.pow 10 up < doubleBound
    | .negSucc down => digits < doubleBound * Nat.pow 10 (down + 1)

/-- Reads the fraction of a float, behind its point: the digits, and what follows them. -/
def fraction? (text : List Char) : Option (List Char × List Char) := do
  let part := text.takeWhile fun c => c.isDigit || c == '_'
  some (← ungroup part, text.dropWhile fun c => c.isDigit || c == '_')

/-- Reads the exponent of a float, to the end of the text. -/
def exponent? : List Char → Option Int
  | [] => some 0
  | c :: text =>
    if c = 'e' ∨ c = 'E' then do
      let (negative, digits) := takeSign text
      let value ← number? 10 (← ungroup digits)
      some (if negative then -(value : Int) else value)
    else none

/-- Reads a float, unless it is larger than every double. -/
def float? (text : List Char) : Option Value := do
  let (_, unsigned) := takeSign text
  if unsigned = ['i', 'n', 'f'] ∨ unsigned = ['n', 'a', 'n'] then
    some (.float (String.ofList text))
  else
    let whole ← decimal? (unsigned.takeWhile fun c => c.isDigit || c == '_')
    let (fraction, rest) ← match unsigned.dropWhile (fun c => c.isDigit || c == '_') with
      | [] => none
      | '.' :: rest => fraction? rest
      | rest => some ([], rest)
    let exponent ← exponent? rest
    let digits ← number? 10 (whole ++ fraction)
    if fitsDouble digits (exponent - fraction.length) then some (.float (String.ofList text))
    else none

/-! ## Points in time -/

/-- Reads a number of exactly two digits. -/
def twoDigits? : List Char → Option (Nat × List Char)
  | a :: b :: text =>
    if a.isDigit ∧ b.isDigit then (number? 10 [a, b]).map (·, text) else none
  | _ => none

/-- The number of days in a month. -/
def daysIn (year month : Nat) : Nat :=
  if month = 2 then
    if year % 4 = 0 ∧ (year % 100 ≠ 0 ∨ year % 400 = 0) then 29 else 28
  else if month = 4 ∨ month = 6 ∨ month = 9 ∨ month = 11 then 30
  else 31

/-- Passes over a date. -/
def date? (text : List Char) : Option (List Char) := do
  let (century, text) ← twoDigits? text
  let (year, text) ← twoDigits? text
  match text with
  | '-' :: text =>
    let (month, text) ← twoDigits? text
    match text with
    | '-' :: text =>
      let (day, text) ← twoDigits? text
      if 1 ≤ month ∧ month ≤ 12 ∧ 1 ≤ day ∧ day ≤ daysIn (century * 100 + year) month then some text
      else none
    | _ => none
  | _ => none

/-- Passes over the hours and minutes of a day. -/
def clock? (text : List Char) : Option (List Char) := do
  let (hour, text) ← twoDigits? text
  match text with
  | ':' :: text =>
    let (minute, text) ← twoDigits? text
    if hour < 24 ∧ minute < 60 then some text else none
  | _ => none

/-- Passes over a time. The seconds may be left out, and may have a fraction. -/
def time? (text : List Char) : Option (List Char) := do
  match ← clock? text with
  | ':' :: text =>
    let (second, text) ← twoDigits? text
    if second > 60 then none
    else
      match text with
      | '.' :: fraction =>
        if fraction.head?.any Char.isDigit then some (fraction.dropWhile Char.isDigit) else none
      | text => some text
  | text => some text

/-- Passes over the distance to the universal time, if there is one. -/
def offset? : List Char → Option (List Char)
  | 'Z' :: text => some text
  | 'z' :: text => some text
  | '+' :: text => clock? text
  | '-' :: text => clock? text
  | text => some text

/-- Whether a text is a date, a time, or both. -/
def isDateTime (text : List Char) : Bool :=
  time? text = some [] ||
    match date? text with
    | none => false
    | some [] => true
    | some (separator :: text) =>
      (separator == 'T' || separator == 't' || separator == ' ') &&
        (time? text).bind offset? = some []

/-! ## All of them -/

/-- Reads a value that is written without quotes. -/
def scalar? (text : List Char) : Option Value :=
  if text = "true".toList then some (.boolean true)
  else if text = "false".toList then some (.boolean false)
  else if isDateTime text then some (.dateTime (String.ofList text))
  else (integer? text).or (float? text)

/-- A character of a value without quotes. -/
def isScalarChar (c : Char) : Bool :=
  c.isAlphanum || c == '+' || c == '-' || c == '_' || c == '.' || c == ':'

/-- Takes the characters of a value without quotes. A date and a time may have a space between them. -/
def takeScalar (text : List Char) : List Char × List Char :=
  let first := text.takeWhile isScalarChar
  let rest := text.dropWhile isScalarChar
  match rest with
  | ' ' :: d :: _ =>
    if d.isDigit ∧ date? first = some [] then
      (first ++ ' ' :: (rest.drop 1).takeWhile isScalarChar, (rest.drop 1).dropWhile isScalarChar)
    else (first, rest)
  | _ => (first, rest)

end Highlighter.Toml
