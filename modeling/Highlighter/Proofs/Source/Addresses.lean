import Highlighter.Proofs.Source.Points

/-!
# Addresses of boundaries

Main statement: the line and the column of a boundary are an address of it. Addresses are in the order of the boundaries, and
so are the points; and the offset of a boundary can be read off its address, from where the line starts and from the code
points of the line to the left of the column.
-/

namespace Highlighter

namespace Point

/-- Points are in the order of their addresses. -/
theorem compare_eq_lt_of_lex {a b : Point} (h : Prod.Lex (· < ·) (· < ·) (a.line, a.column) (b.line, b.column)) :
    compare a b = .lt := by
  show a.order b = .lt
  rcases Prod.lex_def.mp h with hline | ⟨hline, hcolumn⟩
  · rw [order, Nat.compare_eq_lt.mpr hline]
    rfl
  · rw [order, Nat.compare_eq_eq.mpr hline, Nat.compare_eq_lt.mpr hcolumn]
    rfl

theorem swap_compare (a b : Point) : (compare a b).swap = compare b a := by
  show (a.order b).swap = b.order a
  simp only [order, Ordering.swap_then, Nat.compare_swap]

end Point

namespace LineIndex

/-- The offset that a line and a column stand for: where the line starts, and behind that the size of the code points of the
line to the left of the column. -/
def offsetAt? (source : String) (line column : Nat) : Option Nat := do
  let start ← (ofSource source).starts[line - 1]?
  let row ← (source.toList.splitOn '\n')[line - 1]?
  return start + byteLength (row.take (column - 1))

/-- The offset of a boundary is read off its line and column. -/
theorem offsetAt?_point {source : String} {offset : Nat} (h : IsBoundary source.toList offset) :
    offsetAt? source ((ofSource source).point offset).line ((ofSource source).point offset).column = some offset := by
  obtain ⟨front, back, htext, rfl⟩ := h
  obtain ⟨start, more, hpoint, hstart, hsplit, hbytes⟩ := exists_point_byteLength htext
  rw [hpoint, offsetAt?, Nat.add_sub_cancel, Nat.add_sub_cancel, hstart, hsplit]
  -- The code points to the left of the column are those between the start of the line and the boundary.
  show some (start + byteLength ((lastLine front ++ more).take (lastLine front).length)) = some (byteLength front)
  rw [List.take_left, hbytes]

/-- **Line and column address every boundary, in order.** -/
theorem point_addresses {source : String} {first second : Nat} (hfirst : IsBoundary source.toList first)
    (hsecond : IsBoundary source.toList second) :
    let before := (ofSource source).point first
    let after := (ofSource source).point second
    (first < second → Prod.Lex (· < ·) (· < ·) (before.line, before.column) (after.line, after.column)) ∧
      compare before after = compare first second ∧
      offsetAt? source before.line before.column = some first ∧
      ((before.line, before.column) = (after.line, after.column) → first = second) := by
  intro before after
  have hbefore := offsetAt?_point hfirst
  have hafter := offsetAt?_point hsecond
  refine ⟨fun hlt => Prod.lex_def.mpr (point_line_column hfirst hsecond hlt), ?_, hbefore, ?_⟩
  · -- The points compare as their addresses do, and boundaries in the other order are the first case turned round.
    rcases Nat.lt_trichotomy first second with hlt | rfl | hgt
    · rw [Nat.compare_eq_lt.mpr hlt]
      exact Point.compare_eq_lt_of_lex (Prod.lex_def.mpr (point_line_column hfirst hsecond hlt))
    · rw [Nat.compare_eq_eq.mpr rfl]
      exact Point.order_eq_eq_iff.mpr rfl
    · rw [Nat.compare_eq_gt.mpr hgt, ← Point.swap_compare]
      exact congrArg Ordering.swap (Point.compare_eq_lt_of_lex (Prod.lex_def.mpr (point_line_column hsecond hfirst hgt)))
  · -- Two boundaries with one address are both the offset that is read off it.
    intro heq
    obtain ⟨hline, hcolumn⟩ := Prod.mk.inj heq
    have hsame : some first = some second := by
      rw [← hbefore, ← hafter]
      show offsetAt? source before.line before.column = offsetAt? source after.line after.column
      rw [hline, hcolumn]
    exact Option.some.inj hsame

/-- The end of a line, and a place on the next line in the same column. -/
theorem point_addresses_wideText :
    let source := "é\n高x"
    let before := (ofSource source).point 2
    let after := (ofSource source).point 6
    (IsBoundary source.toList 2 ∧ IsBoundary source.toList 6 ∧ before = ⟨1, 2, 2⟩ ∧ after = ⟨2, 2, 6⟩) ∧
      Prod.Lex (· < ·) (· < ·) (before.line, before.column) (after.line, after.column) ∧
      compare before after = compare 2 6 ∧ offsetAt? source before.line before.column = some 2 ∧
      (before.line, before.column) ≠ (after.line, after.column) := by
  intro source before after
  have hbefore : IsBoundary source.toList 2 := by decide
  have hafter : IsBoundary source.toList 6 := by decide
  obtain ⟨hlex, hcompare, hoffset, hunique⟩ := point_addresses hbefore hafter
  refine ⟨⟨hbefore, hafter, by decide, by decide⟩, hlex (by decide), hcompare, hoffset, ?_⟩
  intro hsame
  exact absurd (hunique hsame) (by decide)

end LineIndex

end Highlighter
