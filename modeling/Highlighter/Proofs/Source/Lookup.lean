import Highlighter.Proofs.Source.Points

/-!
# Lookups in the line index

Main statement: what the point of any offset is, said of the bytes of the source alone. Its line counts the newline bytes
before the offset, and its column what there is behind the last of them: code points if the offset is a boundary, and bytes
if it lies inside a code point. The table of lines is in order, and the lookup never leaves it.
-/

namespace Highlighter

/-- A line starts at zero or behind a newline byte, and an offset is on it as long as no other newline byte comes before the
offset. -/
structure StartsLine (bytes : List UInt8) (offset start : Nat) : Prop where
  start_le : start ≤ offset
  zero_or_newline : start = 0 ∨ bytes[start - 1]? = some newlineByte
  no_newline : newlineByte ∉ (bytes.take offset).drop start

/-- The column of an offset on a line that starts at `start`, counted from one: the code points between the two if the offset
is a boundary of the text, and the bytes between them if it is not. -/
structure HasColumn (text : List Char) (start offset column : Nat) : Prop where
  of_boundary : IsBoundary text offset → ∃ upper gap lower, text = upper ++ (gap ++ lower) ∧ byteLength upper = start ∧
    byteLength upper + byteLength gap = offset ∧ column = 1 + gap.length
  of_inside : ¬ IsBoundary text offset → column = 1 + (offset - start)

namespace OnRow

variable {text upper row lower : List Char} {offset : Nat} (h : OnRow text offset upper row lower)
include h

/-- The bytes before an offset are those above its row, and a part of those of the row. -/
theorem take_utf8 : (utf8 text).take offset = utf8 upper ++ (utf8 row).take (offset - byteLength upper) := by
  have hupper : (utf8 upper).take offset = utf8 upper := by
    apply List.take_of_length_le
    rw [length_utf8]
    exact h.upper_le
  have hwithin : offset - byteLength upper ≤ (utf8 row).length := by
    have hbound := h.le_row
    rw [length_utf8]
    omega
  rw [h.text_eq, utf8_append, utf8_append, List.take_append, hupper, length_utf8, List.take_append_of_le_length hwithin]

theorem newlineByte_not_mem_take (bytes : Nat) : newlineByte ∉ (utf8 row).take bytes :=
  fun hmem => newlineByte_not_mem_utf8 h.free (List.mem_of_mem_take hmem)

theorem count_take_utf8 : ((utf8 text).take offset).count newlineByte = upper.count '\n' := by
  rw [h.take_utf8, List.count_append, count_utf8, List.count_eq_zero_of_not_mem (h.newlineByte_not_mem_take _),
    Nat.add_zero]

theorem startsLine : StartsLine (utf8 text) offset (byteLength upper) := by
  refine ⟨h.upper_le, ?_, ?_⟩
  · rcases h.upper_ends with rfl | ⟨higher, rfl⟩
    · exact .inl rfl
    · -- What stands above the row ends with a newline, which is one byte.
      right
      have hbytes : utf8 text = utf8 higher ++ (newlineByte :: utf8 (row ++ lower)) := by
        rw [h.text_eq, List.append_assoc, utf8_append]
        rfl
      have hend : byteLength (higher ++ ['\n']) - 1 = (utf8 higher).length := by
        rw [byteLength_append, length_utf8]
        rfl
      rw [hbytes, hend, List.getElem?_append_right (Nat.le_refl _), Nat.sub_self]
      rfl
  · -- The bytes from the start of the row to the offset are those of the row, which has no newline.
    rw [h.take_utf8, ← length_utf8 upper, List.drop_left]
    exact h.newlineByte_not_mem_take _

/-- The column on the row is the column in the text. -/
theorem hasColumn : HasColumn text (byteLength upper) offset (LineIndex.columnAt row (offset - byteLength upper) + 1) := by
  obtain ⟨bytes, rfl⟩ := Nat.exists_eq_add_of_le h.upper_le
  have hwithin : bytes ≤ byteLength row := Nat.le_of_add_le_add_left h.le_row
  -- The offset is between two characters of the text if it is between two of the row.
  have hcut : IsBoundary text (byteLength upper + bytes) ↔ IsBoundary row bytes := by
    rw [h.text_eq]
    exact isBoundary_piece_iff hwithin
  rw [Nat.add_sub_cancel_left]
  constructor
  · -- Between two characters the column counts those in front.
    intro hboundary
    obtain ⟨gap, rest, rfl, rfl⟩ := hcut.mp hboundary
    refine ⟨upper, gap, rest ++ lower, by rw [h.text_eq, List.append_assoc], rfl, rfl, ?_⟩
    rw [LineIndex.columnAt_byteLength, Nat.add_comm]
  · -- Inside a character the column falls back to the bytes.
    intro hinside
    rw [hcut] at hinside
    rw [LineIndex.columnAt_of_not_isBoundary hinside, Nat.add_sub_cancel_left, Nat.add_comm]

end OnRow

namespace LineIndex

/-- The line of a point is how many starts the offset has reached. -/
theorem point_line (source : String) (offset : Nat) :
    ((ofSource source).point offset).line =
      ((ofSource source).starts.takeWhile (· ≤ min offset (byteLength source.toList))).length := by
  rw [starts, List.takeWhile_map, List.length_map]
  rfl

/-- **The point of every offset, by the bytes of the source.** An offset past the end stands for the end. The table of line
starts increases from zero, and the line of the point is where the offset divides it, one place behind the start of the
line that the offset is on. -/
theorem point_locates (source : String) (offset : Nat) :
    let index : LineIndex := ofSource source
    let bytes := source.toByteArray.data.toList
    let cut := min offset bytes.length
    let place := index.point offset
    (place.offset = cut ∧ place.line = 1 + (bytes.take cut).count newlineByte ∧
      ∃ start, index.starts[place.line - 1]? = some start ∧ StartsLine bytes cut start ∧
        HasColumn source.toList start cut place.column) ∧
      (index.starts.head? = some 0 ∧ index.starts.Pairwise (· < ·)) ∧
      1 ≤ place.line ∧ ∀ number (h : number < index.starts.length), index.starts[number] ≤ cut ↔ number < place.line := by
  intro index bytes cut place
  have hbytes : bytes = utf8 source.toList := (utf8_toList source).symm
  have hcut : cut = min offset (byteLength source.toList) := by rw [← length_utf8, ← hbytes]
  have hline : place.line = (index.starts.takeWhile (· ≤ cut)).length := by
    rw [hcut]
    exact point_line source offset
  -- All of this is read off the row on which the offset lies.
  obtain ⟨upper, row, lower, hrow, hpoint, hstart, -⟩ := exists_point source offset
  rw [← hcut] at hrow hpoint
  have hplace : place = ⟨upper.count '\n' + 1, columnAt row (cut - byteLength upper) + 1, cut⟩ := hpoint
  refine ⟨⟨?_, ?_, byteLength upper, ?_, ?_, ?_⟩, ⟨?_, pairwise_starts source⟩, ?_, ?_⟩
  · rw [hplace]
  · rw [hplace, hbytes, hrow.count_take_utf8, Nat.add_comm]
  · rw [hplace]
    exact hstart
  · rw [hbytes]
    exact hrow.startsLine
  · rw [hplace]
    exact hrow.hasColumn
  · show (ofSource source).starts.head? = some 0
    rw [starts_ofSource]
    rfl
  · rw [hplace]
    exact Nat.le_add_left 1 _
  · -- The table increases, so there is one place at which the offset can divide it.
    intro number hnumber
    rw [hline]
    exact getElem_le_iff_lt_length_takeWhile (pairwise_starts source) cut number hnumber

/-- Inside a code point the column may lie further to the right than at the end of it. -/
example : (ofSource "é\n高x").point 5 = ⟨2, 3, 5⟩ ∧ (ofSource "é\n高x").point 6 = ⟨2, 2, 6⟩ := by decide

end LineIndex

end Highlighter
