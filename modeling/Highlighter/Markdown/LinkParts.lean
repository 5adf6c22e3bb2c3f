import Highlighter.Markdown.Cursor
import Highlighter.Markdown.Entity

/-!
# The parts of links

Destinations, titles, labels and the addresses in angle brackets. Each reader takes the index at which a part
begins, and gives the index behind it with what it says.
-/

namespace Highlighter.Markdown

/-- How deeply parentheses may be nested in a destination. -/
def maxNesting : Nat := 32

namespace Source

/-! ## Destinations -/

/-- Reads a destination behind its opening angle bracket. -/
def angleDestination? (source : Source) (start index : Nat) : Option (Nat × List Char) :=
  if h : index < source.chars.size then
    let c := source.chars[index]
    if c = '\n' ∨ c = '\r' ∨ c = '<' then none
    else if c = '>' then some (index + 1, source.slice start index)
    else if c = '\\' ∧ source.isAt (index + 1) isAsciiPunctuation then
      angleDestination? source start (index + 2)
    else angleDestination? source start (index + 1)
  else none
termination_by source.chars.size - index

/-- The index at which a destination without angle brackets ends, unless its parentheses are unbalanced or
nested too deeply. -/
def bareDestinationEnd? (source : Source) (depth index : Nat) : Option Nat :=
  if h : index < source.chars.size then
    let c := source.chars[index]
    if c.toNat ≤ 32 then if depth = 0 then some index else none
    else if c = '(' then
      if depth > maxNesting then none else bareDestinationEnd? source (depth + 1) (index + 1)
    else if c = ')' then
      if depth = 0 then some index else bareDestinationEnd? source (depth - 1) (index + 1)
    else if c = '\\' ∧ source.isAt (index + 1) isAsciiPunctuation then
      bareDestinationEnd? source depth (index + 2)
    else bareDestinationEnd? source depth (index + 1)
  else if depth = 0 then some index else none
termination_by source.chars.size - index

/-- Reads a destination. -/
def destination? (source : Source) (index : Nat) : Option (Nat × List Char) :=
  if source.hasAt index '<' then source.angleDestination? (index + 1) (index + 1)
  else (source.bareDestinationEnd? 0 index).map fun stop => (stop, source.slice index stop)

/-! ## Addresses in angle brackets -/

/-- Reads an address with a scheme, up to and with the closing angle bracket. -/
def uri? (source : Source) (index : Nat) : Option (Nat × String) :=
  if source.isAt index Char.isAlpha then
    let isSchemeChar (c : Char) : Bool := c.isAlphanum || c == '.' || c == '-' || c == '+'
    let colon := source.skipWhile isSchemeChar index
    let length := colon - index
    if source.hasAt colon ':' ∧ 2 ≤ length ∧ length ≤ 32 then
      let stop := source.skipWhile (fun c => 32 < c.toNat && c != '<' && c != '>') (colon + 1)
      if source.hasAt stop '>' then some (stop + 1, source.text index stop) else none
    else none
  else none

/-- A character before the at sign of a mail address. -/
def isMailboxChar (c : Char) : Bool :=
  c.isAlphanum || ".!#$%&'*+/=?^_\x60\x7b|\x7d~-".toList.contains c

/-- The index behind the labels of a host name, which are separated by dots. A label has up to 63 letters,
digits and hyphens, and begins and ends with no hyphen. -/
def hostEnd? (source : Source) (index : Nat) : Option Nat :=
  let stop := source.skipWhile (fun c => c.isAlphanum || c == '-') index
  if stop = index ∨ stop - index > 63 ∨ source.hasAt index '-' ∨ source.hasAt (stop - 1) '-' then none
  else if source.hasAt stop '.' then
    if _ : index < stop ∧ index < source.size then hostEnd? source (stop + 1) else none
  else some stop
termination_by source.size - index

/-- Reads a mail address, up to and with the closing angle bracket. -/
def mailAddress? (source : Source) (index : Nat) : Option (Nat × String) :=
  let sign := source.skipWhile isMailboxChar index
  if index < sign ∧ source.hasAt sign '@' then
    match source.hostEnd? (sign + 1) with
    | some stop => if source.hasAt stop '>' then some (stop + 1, source.text index stop) else none
    | none => none
  else none

/-- Reads an address behind an opening angle bracket. -/
def address? (source : Source) (index : Nat) : Option (Nat × String) :=
  (source.uri? index).or (source.mailAddress? index)

/-! ## Labels -/

/-- How long a label may grow. -/
def maxLabel : Nat := 1000

/-- A label as far as it has been read: the characters so far, the last one first, their count in the source,
and whether there was anything but white space. -/
structure LabelScan where
  reversed : List Char
  count : Nat
  visible : Bool

/-- Passes over white space in a label: the index behind it. Of line ends there may be one, behind which
`resume` tells where the next line goes on. -/
def labelSpace? (source : Source) (resume : Nat → Option Nat) (broken : Bool) (index : Nat) :
    Option Nat :=
  if h : index < source.chars.size then
    if isSpace source.chars[index] then
      match source.lineEnd? index with
      | some after =>
        if broken then none
        else
          match resume after with
          | none => none
          | some next => labelSpace? source resume true (max next (index + 1))
      | none => labelSpace? source resume broken (index + 1)
    else some index
  else some index
termination_by source.chars.size - index

/-- Reads a label behind its opening bracket, up to and with the closing bracket. White space inside is taken as
one space. -/
def labelFrom? (source : Source) (inTable : Bool) (resume : Nat → Option Nat) (index : Nat)
    (scan : LabelScan) : Option (Nat × String) :=
  if scan.count ≥ maxLabel then none
  else if h : index < source.chars.size then
    let c := source.chars[index]
    if c = '[' then none
    else if c = ']' then
      if scan.visible then
        let trimmed := (scan.reversed.dropWhile isSpace).reverse.dropWhile isSpace
        some (index + 1, String.ofList trimmed)
      else none
    else if c = '\\' ∧ inTable ∧ source.hasAt (index + 1) '\\' ∧ source.hasAt (index + 2) '|' then
      labelFrom? source inTable resume (index + 3)
        ⟨'|' :: '\\' :: scan.reversed, scan.count + 2, scan.visible⟩
    else if c = '\\' ∧ inTable ∧ source.hasAt (index + 1) '|' then
      labelFrom? source inTable resume (index + 2)
        ⟨'|' :: scan.reversed, scan.count + 1, scan.visible⟩
    else if c = '\\' ∧ source.isAt (index + 1) isAsciiPunctuation then
      labelFrom? source inTable resume (index + 2)
        ⟨(source.slice (index + 1) (index + 2)) ++ '\\' :: scan.reversed, scan.count + 2,
          scan.visible⟩
    else if isSpace c then
      match source.labelSpace? resume false index with
      | none => none
      | some next =>
        let next := max next (index + 1)
        labelFrom? source inTable resume next
          ⟨' ' :: scan.reversed, scan.count + (next - index), scan.visible⟩
    else
      labelFrom? source inTable resume (index + 1) ⟨c :: scan.reversed, scan.count + 1, true⟩
  else none
termination_by source.chars.size - index

/-- Reads a label behind its opening bracket. -/
def label? (source : Source) (inTable : Bool) (resume : Nat → Option Nat) (index : Nat) :
    Option (Nat × String) :=
  source.labelFrom? inTable resume index ⟨[], 0, false⟩

end Source

end Highlighter.Markdown
