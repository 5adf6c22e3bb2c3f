import Highlighter.Proofs.Source.LineTable

/-!
# Points of offsets

An offset is a boundary of a text if it lies between two code points of it, or at an end. Main statements: the point of an
offset is its place on the row of the source on which it lies; the point of a boundary tells the newlines before it, and the
code points behind the last of them; and of two boundaries the later one is on a later line, or further to the right on the
same line, so that points are in the order of the offsets.
-/

namespace Highlighter

/-! ## Lines of a text -/

/-- The part of a text behind its last newline. -/
def lastLine (text : List Char) : List Char := (text.reverse.takeWhile (· ≠ '\n')).reverse

theorem lastLine_append {front back : List Char} (h : '\n' ∉ back) : lastLine (front ++ back) = lastLine front ++ back := by
  have hback : ∀ c ∈ back.reverse, decide (c ≠ '\n') = true := by
    intro c hc
    rw [List.mem_reverse] at hc
    exact decide_eq_true fun heq => h (heq ▸ hc)
  rw [lastLine, List.reverse_append, List.takeWhile_append_of_pos hback, List.reverse_append,
    List.reverse_reverse, lastLine]

theorem lastLine_append_newline (front back : List Char) : lastLine (front ++ '\n' :: back) = lastLine back := by
  rw [lastLine, lastLine, List.reverse_append, List.reverse_cons, List.append_assoc, List.takeWhile_append]
  split
  case isTrue hall =>
    have hwhole := (List.takeWhile_prefix (fun c : Char => decide (c ≠ '\n'))).eq_of_length hall
    rw [hwhole, List.singleton_append, List.takeWhile_cons_of_neg (by simp), List.append_nil]
  case isFalse => rfl

/-! ## Boundaries -/

/-- An offset is a boundary of a text if the text can be cut there. -/
def IsBoundary (text : List Char) (offset : Nat) : Prop :=
  ∃ front back, text = front ++ back ∧ byteLength front = offset

theorem isBoundary_zero (text : List Char) : IsBoundary text 0 := ⟨[], text, rfl, rfl⟩

theorem isBoundary_size (text : List Char) : IsBoundary text (byteLength text) := ⟨text, [], by simp, rfl⟩

theorem isSome_charCount?_iff (text : List Char) (offset : Nat) :
    (charCount? text offset).isSome = true ↔ IsBoundary text offset := by
  constructor
  · -- Counting takes off one character after the other, so the induction is on the text and the rest of the offset.
    intro h
    induction text generalizing offset with
    | nil =>
      cases offset with
      | zero => exact isBoundary_zero []
      | succ bytes => simp [charCount?] at h
    | cons c text ih =>
      cases offset with
      | zero => exact isBoundary_zero (c :: text)
      | succ bytes =>
        rw [charCount?] at h
        split at h
        case isTrue hsize =>
          obtain ⟨front, back, rfl, hbytes⟩ := ih (bytes + 1 - c.utf8Size) (by simpa using h)
          exact ⟨c :: front, back, rfl, by rw [byteLength_cons]; omega⟩
        case isFalse => simp at h
  · rintro ⟨front, back, rfl, rfl⟩
    rw [charCount?_append]
    rfl

instance (text : List Char) (offset : Nat) : Decidable (IsBoundary text offset) :=
  decidable_of_iff _ (isSome_charCount?_iff text offset)

/-- Two cuts of a text leave a part between them. -/
theorem IsBoundary.exists_between {text : List Char} {first second : Nat} (hfirst : IsBoundary text first)
    (hsecond : IsBoundary text second) (h : first ≤ second) :
    ∃ front gap back, text = front ++ (gap ++ back) ∧ byteLength front = first ∧
      byteLength front + byteLength gap = second := by
  obtain ⟨front, behind, rfl, rfl⟩ := hfirst
  obtain ⟨upper, back, htext, rfl⟩ := hsecond
  rcases List.append_eq_append_iff.mp htext with ⟨gap, rfl, rfl⟩ | ⟨gap, rfl, rfl⟩
  · exact ⟨front, gap, back, rfl, rfl, (byteLength_append ..).symm⟩
  · -- The second cut is not in front of the first, so there is nothing between them.
    rw [byteLength_append] at h
    have hgap : gap = [] := byteLength_eq_zero_iff.mp (by omega)
    subst hgap
    exact ⟨upper, [], behind, by simp, by simp, by simp⟩

/-- Fronts of a text that have the same size are the same. -/
theorem append_inj_of_byteLength {front back upper lower : List Char} (h : front ++ back = upper ++ lower)
    (hsize : byteLength front = byteLength upper) : front = upper ∧ back = lower := by
  have hcount := charCount?_append front back
  rw [h, hsize, charCount?_append, Option.some.injEq] at hcount
  exact List.append_inj h hcount.symm

/-- A cut of a text within the front of it is a cut of the front. -/
theorem IsBoundary.of_append {front back : List Char} {offset : Nat} (h : IsBoundary (front ++ back) offset)
    (hle : offset ≤ byteLength front) : IsBoundary front offset := by
  have hend : IsBoundary (front ++ back) (byteLength front) := ⟨front, back, rfl, rfl⟩
  obtain ⟨upper, gap, rest, htext, rfl, hgap⟩ := h.exists_between hend hle
  rw [← List.append_assoc] at htext
  obtain ⟨hfront, -⟩ := append_inj_of_byteLength htext (by rw [byteLength_append, hgap])
  exact ⟨upper, gap, hfront, rfl⟩

/-- The cuts of a text within a piece of it are those of the piece. -/
theorem isBoundary_piece_iff {upper piece lower : List Char} {bytes : Nat} (h : bytes ≤ byteLength piece) :
    IsBoundary (upper ++ (piece ++ lower)) (byteLength upper + bytes) ↔ IsBoundary piece bytes := by
  constructor
  · intro hcut
    have hstart : IsBoundary (upper ++ (piece ++ lower)) (byteLength upper) := ⟨upper, _, rfl, rfl⟩
    obtain ⟨front, gap, rest, htext, hfront, hgap⟩ := hstart.exists_between hcut (Nat.le_add_right _ _)
    obtain ⟨-, hrest⟩ := append_inj_of_byteLength htext hfront.symm
    exact IsBoundary.of_append ⟨gap, rest, hrest, by omega⟩ h
  · rintro ⟨front, rest, rfl, rfl⟩
    exact ⟨upper ++ front, rest ++ lower, by simp, by simp⟩

/-- A front of a text is cut on its last row. -/
theorem OnRow.exists_gap {text front back upper row lower : List Char} (h : OnRow text (byteLength front) upper row lower)
    (htext : text = front ++ back) : ∃ gap rest, front = upper ++ gap ∧ row = gap ++ rest := by
  obtain ⟨bytes, hbytes⟩ := Nat.exists_eq_add_of_le h.upper_le
  have hwithin : bytes ≤ byteLength row := by
    have hbound := h.le_row
    omega
  have hcut : IsBoundary (upper ++ (row ++ lower)) (byteLength upper + bytes) :=
    ⟨front, back, by rw [← h.text_eq, htext], hbytes⟩
  obtain ⟨gap, rest, rfl, rfl⟩ := (isBoundary_piece_iff hwithin).mp hcut
  have hsame : front ++ back = (upper ++ gap) ++ (rest ++ lower) := by
    rw [← htext, h.text_eq, List.append_assoc, List.append_assoc]
  obtain ⟨hfront, -⟩ := append_inj_of_byteLength hsame (by rw [hbytes, byteLength_append])
  exact ⟨gap, rest, hfront, rfl⟩

theorem OnRow.lastLine_append {text upper row lower gap : List Char} {offset : Nat} (h : OnRow text offset upper row lower)
    (hfree : '\n' ∉ gap) : lastLine (upper ++ gap) = gap := by
  have hgap : lastLine ([] ++ gap) = gap := Highlighter.lastLine_append hfree
  rcases h.upper_ends with rfl | ⟨higher, rfl⟩
  · exact hgap
  · rw [List.append_assoc, List.singleton_append, lastLine_append_newline]
    exact hgap

/-! ## Columns -/

namespace LineIndex

theorem columnAt_byteLength (front back : List Char) : columnAt (front ++ back) (byteLength front) = front.length := by
  rw [columnAt, charCount?_append]
  rfl

theorem columnAt_of_not_isBoundary {line : List Char} {bytes : Nat} (h : ¬ IsBoundary line bytes) :
    columnAt line bytes = bytes := by
  rw [← isSome_charCount?_iff, Bool.not_eq_true, Option.isSome_eq_false_iff, Option.isNone_iff_eq_none] at h
  rw [columnAt, h]
  rfl

/-- The column on a line does not depend on what follows. -/
theorem columnAt_append {row : List Char} {bytes : Nat} (stop : List Char) (h : bytes ≤ byteLength row) :
    columnAt (row ++ stop) bytes = columnAt row bytes := by
  by_cases hcut : IsBoundary row bytes
  · obtain ⟨front, rest, rfl, rfl⟩ := hcut
    rw [List.append_assoc, columnAt_byteLength, columnAt_byteLength]
  · have hwhole : ¬ IsBoundary (row ++ stop) bytes := fun hwhole => hcut (hwhole.of_append h)
    rw [columnAt_of_not_isBoundary hcut, columnAt_of_not_isBoundary hwhole]

/-! ## Points -/

/-- **The point of an offset is its place on the row of the source on which it lies.** -/
theorem exists_point (source : String) (offset : Nat) :
    let index := ofSource source
    let cut := min offset (byteLength source.toList)
    ∃ upper row lower, OnRow source.toList cut upper row lower ∧
      index.point offset = ⟨upper.count '\n' + 1, columnAt row (cut - byteLength upper) + 1, cut⟩ ∧
      index.starts[upper.count '\n']? = some (byteLength upper) ∧
      (source.toList.splitOn '\n')[upper.count '\n']? = some row := by
  intro index cut
  have hcut : cut ≤ byteLength source.toList := Nat.min_le_right _ _
  obtain ⟨upper, row, stop, back, hrow, hsplit, hlength, hlast⟩ := (lined_ofSource source).exists_onRow hcut
  simp only [Nat.zero_add] at hlength hlast
  -- The last line that starts no later than the offset is the one counted by the newlines above it.
  have hline : index.lines[upper.count '\n']? = some ⟨byteLength upper, row ++ stop⟩ := by
    have hlookup := getElem?_of_getLast?_takeWhile hlast
    rwa [hlength, Nat.add_sub_cancel] at hlookup
  have hwithin : cut - byteLength upper ≤ byteLength row := by
    have hbound := hrow.le_row
    omega
  refine ⟨upper, row, stop ++ back, hrow, ?_, ?_, hsplit⟩
  · -- The offset is not behind the newline that ends the line, so the column can be taken on the row.
    have hsize : index.size = byteLength source.toList := rfl
    simp only [point, hsize]
    rw [hlength, hlast, ← columnAt_append stop hwithin]
  · rw [starts, List.getElem?_map, hline]
    rfl

/-- A boundary lies behind the code points that its front has on the last line, and these are at the front of a row. -/
theorem exists_point_byteLength {source : String} {front back : List Char} (h : source.toList = front ++ back) :
    ∃ start more,
      (ofSource source).point (byteLength front) = ⟨front.count '\n' + 1, (lastLine front).length + 1, byteLength front⟩ ∧
      (ofSource source).starts[front.count '\n']? = some start ∧
      (source.toList.splitOn '\n')[front.count '\n']? = some (lastLine front ++ more) ∧
      start + byteLength (lastLine front) = byteLength front := by
  have hcut : min (byteLength front) (byteLength source.toList) = byteLength front := by simp [h]
  obtain ⟨upper, row, lower, hrow, hpoint, hstart, hsplit⟩ := exists_point source (byteLength front)
  rw [hcut] at hrow hpoint
  -- What the front has on the row is its last line.
  obtain ⟨gap, rest, rfl, rfl⟩ := hrow.exists_gap h
  have hfree : '\n' ∉ gap := fun hmem => hrow.free (List.mem_append_left rest hmem)
  have hcount : (upper ++ gap).count '\n' = upper.count '\n' := by
    rw [List.count_append, List.count_eq_zero_of_not_mem hfree, Nat.add_zero]
  rw [hrow.lastLine_append hfree, hcount]
  refine ⟨byteLength upper, rest, ?_, hstart, hsplit, (byteLength_append ..).symm⟩
  rw [hpoint, byteLength_append, Nat.add_sub_cancel_left, columnAt_byteLength]

/-- The line of a boundary is one more than the newlines before it, and its column is one more than the code points
behind the last of them. -/
theorem point_byteLength {source : String} {front back : List Char} (h : source.toList = front ++ back) :
    (ofSource source).point (byteLength front) =
      ⟨front.count '\n' + 1, (lastLine front).length + 1, byteLength front⟩ := by
  obtain ⟨start, more, hpoint, -⟩ := exists_point_byteLength h
  exact hpoint

/-- **Of two boundaries the later is on a later line, or further to the right on the same line.** -/
theorem point_line_column {source : String} {first second : Nat} (hfirst : IsBoundary source.toList first)
    (hsecond : IsBoundary source.toList second) (h : first < second) :
    let index := ofSource source
    (index.point first).line < (index.point second).line ∨
      (index.point first).line = (index.point second).line ∧
        (index.point first).column < (index.point second).column := by
  obtain ⟨front, gap, back, htext, rfl, rfl⟩ := hfirst.exists_between hsecond (Nat.le_of_lt h)
  have hwhole : source.toList = (front ++ gap) ++ back := by rw [htext, List.append_assoc]
  have hpoint := point_byteLength htext
  have hlater := point_byteLength hwhole
  rw [byteLength_append] at hlater
  simp only [hpoint, hlater, List.count_append]
  -- A newline between the two ends the line of the first.
  by_cases hnewline : '\n' ∈ gap
  · have hcount := List.count_pos_iff.mpr hnewline
    exact .inl (by omega)
  · have hsome : 0 < gap.length := List.length_pos_iff.mpr fun hnil => by simp [hnil] at h
    rw [List.count_eq_zero_of_not_mem hnewline, lastLine_append hnewline, List.length_append]
    exact .inr ⟨rfl, by omega⟩

/-- The points of boundaries are in the order of the boundaries. -/
theorem isLE_order_point {source : String} {first second : Nat} (hfirst : IsBoundary source.toList first)
    (hsecond : IsBoundary source.toList second) (h : first ≤ second) :
    (((ofSource source).point first).order ((ofSource source).point second)).isLE = true := by
  rcases Nat.lt_or_eq_of_le h with hlt | rfl
  · rw [Point.isLE_order_iff]
    rcases point_line_column hfirst hsecond hlt with hline | ⟨hline, hcolumn⟩
    · exact .inl hline
    · exact .inr ⟨hline, .inl hcolumn⟩
  · rw [Point.order_eq_eq_iff.mpr rfl]
    rfl

end LineIndex

end Highlighter
