import Highlighter.Source.Position

/-!
# Line index

Turns a byte offset into a `Point`. The index holds the lines of the source, each with the offset at
which it starts; the point of an offset lies on the last line that starts no later.

Columns count code points. An offset inside the encoding of a code point has no such column; there the
column counts bytes.
-/

namespace Highlighter

/-- The number of bytes that the UTF-8 encoding of a text takes. -/
def byteLength : List Char → Nat
  | [] => 0
  | c :: cs => c.utf8Size + byteLength cs

@[simp] theorem byteLength_nil : byteLength [] = 0 := rfl

@[simp] theorem byteLength_cons (c : Char) (cs : List Char) :
    byteLength (c :: cs) = c.utf8Size + byteLength cs := rfl

@[simp] theorem byteLength_append (cs ds : List Char) :
    byteLength (cs ++ ds) = byteLength cs + byteLength ds := by
  induction cs with
  | nil => simp
  | cons c cs ih => simp [ih, Nat.add_assoc]

@[simp] theorem byteLength_reverse (text : List Char) : byteLength text.reverse = byteLength text := by
  induction text with
  | nil => rfl
  | cons c text ih => simp [ih, Nat.add_comm]

theorem byteLength_eq_zero_iff {text : List Char} : byteLength text = 0 ↔ text = [] := by
  cases text with
  | nil => simp
  | cons c text =>
    have hpos := c.utf8Size_pos
    simp only [byteLength_cons, reduceCtorEq, iff_false]
    omega

/-- How many code points at the front of a text take exactly so many bytes, if some number does. -/
def charCount? : List Char → Nat → Option Nat
  | _, 0 => some 0
  | [], _ + 1 => none
  | c :: cs, bytes + 1 =>
    if c.utf8Size ≤ bytes + 1 then (charCount? cs (bytes + 1 - c.utf8Size)).map (· + 1) else none

/-- The code points at the front of a text are counted by their bytes. -/
theorem charCount?_append (front back : List Char) :
    charCount? (front ++ back) (byteLength front) = some front.length := by
  induction front with
  | nil => simp [charCount?]
  | cons c front ih =>
    obtain ⟨size, hsize⟩ := Nat.exists_eq_add_one_of_ne_zero (Nat.ne_of_gt c.utf8Size_pos)
    have hbytes : byteLength (c :: front) = size + byteLength front + 1 := by
      rw [byteLength_cons]
      omega
    have hrest : size + byteLength front + 1 - c.utf8Size = byteLength front := by omega
    rw [hbytes, List.cons_append, charCount?, if_pos (by omega), hrest, ih]
    rfl

/-- One line of a source: the offset of its first byte, and its text with the newline. -/
structure SourceLine where
  start : Nat
  text : List Char
deriving Repr

/-- The lines of a text that starts at `start`, where `line` holds the part of the current line read
so far, backwards, and `next` is the offset of the next code point. -/
def linesFrom (start next : Nat) (line : List Char) : List Char → List SourceLine
  | [] => [⟨start, line.reverse⟩]
  | c :: cs =>
    let after := next + c.utf8Size
    if c = '\n' then ⟨start, (c :: line).reverse⟩ :: linesFrom after after [] cs
    else linesFrom start after (c :: line) cs

/-- The lines of a source, and its length in bytes. -/
structure LineIndex where
  size : Nat
  lines : List SourceLine
deriving Repr

namespace LineIndex

/-- The index of a source. A newline ends its line, so a final newline is followed by an empty line. -/
def ofSource (source : String) : LineIndex :=
  ⟨byteLength source.toList, linesFrom 0 0 [] source.toList⟩

/-- The offsets at which the lines start. -/
def starts (index : LineIndex) : List Nat := index.lines.map (·.start)

/-- The column, counted from zero, of the place so many bytes into a line. -/
def columnAt (line : List Char) (bytes : Nat) : Nat := (charCount? line bytes).getD bytes

/-- The point of an offset. An offset past the end stands for the end. -/
def point (index : LineIndex) (offset : Nat) : Point :=
  let offset := min offset index.size
  let reached := index.lines.takeWhile (·.start ≤ offset)
  let column := match reached.getLast? with
    | some line => columnAt line.text (offset - line.start)
    | none => offset
  ⟨reached.length, column + 1, offset⟩

/-- The position between two offsets. -/
def position (index : LineIndex) (start stop : Nat) : Position :=
  ⟨index.point start, index.point stop⟩

/-- The point of an offset keeps the offset, cut at the end of the source. -/
@[simp] theorem point_offset (index : LineIndex) (offset : Nat) :
    (index.point offset).offset = min offset index.size := rfl

end LineIndex

end Highlighter
