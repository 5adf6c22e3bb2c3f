/-!
# Places in a source text

A `Point` is one place: its line and column count from one, its offset counts bytes from zero. A
`Position` is the range that a node was read from.
-/

namespace Highlighter

/-- One place in a source text. -/
structure Point where
  line : Nat
  column : Nat
  offset : Nat
deriving DecidableEq, Repr

namespace Point

/-- Points compare by line, then by column, then by offset. -/
def order (a b : Point) : Ordering :=
  (compare a.line b.line).then ((compare a.column b.column).then (compare a.offset b.offset))

instance : Ord Point := ⟨order⟩

/-- A point comes out equal to itself only. -/
theorem order_eq_eq_iff {a b : Point} : a.order b = .eq ↔ a = b := by
  cases a; cases b
  simp [order, Ordering.then_eq_eq]

/-- A point is not behind another if it is on an earlier line, or on the same line and not further to the right. -/
theorem isLE_order_iff {a b : Point} :
    (a.order b).isLE = true ↔
      a.line < b.line ∨ a.line = b.line ∧ (a.column < b.column ∨ a.column = b.column ∧ a.offset ≤ b.offset) := by
  simp only [order, Ordering.isLE_then_iff_or, Nat.compare_eq_lt, Nat.compare_eq_eq, Nat.isLE_compare]

theorem isLE_order_trans {a b c : Point} (hab : (a.order b).isLE = true) (hbc : (b.order c).isLE = true) :
    (a.order c).isLE = true := by
  rw [isLE_order_iff] at *
  omega

end Point

/-- The range of a source text that a node was read from. -/
structure Position where
  start : Point
  stop : Point
deriving DecidableEq, Repr

namespace Position

/-- The range from the start of the first position to the end of the second. -/
def extendTo (first second : Position) : Position :=
  ⟨first.start, second.stop⟩

@[simp] theorem extendTo_start (p q : Position) : (p.extendTo q).start = p.start := rfl

@[simp] theorem extendTo_stop (p q : Position) : (p.extendTo q).stop = q.stop := rfl

end Position

end Highlighter
