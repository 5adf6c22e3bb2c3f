import Highlighter.Source.LineIndex
import Highlighter.Proofs.Spans
import Mathlib.Data.List.Basic

/-!
# The table of lines

The index of a source keeps its lines, each with the offset at which it starts. Main statements: a line starts at zero and
behind each newline byte of the source, so that the table increases; and each offset lies on one row of the source, the last
that it has reached, where a row is what lies between two newlines.
-/

namespace Highlighter

/-! ## Bytes of a text -/

/-- The UTF-8 encoding of a text. -/
def utf8 (text : List Char) : List UInt8 := text.flatMap String.utf8EncodeChar

/-- The one byte that encodes a newline. -/
def newlineByte : UInt8 := 10

@[simp] theorem utf8_nil : utf8 [] = [] := rfl

@[simp] theorem utf8_cons (c : Char) (text : List Char) : utf8 (c :: text) = String.utf8EncodeChar c ++ utf8 text := rfl

@[simp] theorem utf8_append (front back : List Char) : utf8 (front ++ back) = utf8 front ++ utf8 back := List.flatMap_append

@[simp] theorem length_utf8 (text : List Char) : (utf8 text).length = byteLength text := by
  induction text with
  | nil => rfl
  | cons c text ih => simp [ih]

/-- These are the bytes that a string holds. -/
theorem utf8_toList (source : String) : utf8 source.toList = source.toByteArray.data.toList := by
  rw [← String.utf8Encode_toList, List.utf8Encode, List.toList_data_toByteArray]
  rfl

theorem newlineByte_eq_ofNat_iff {n : Nat} : newlineByte = UInt8.ofNat n ↔ n % 256 = 10 := by
  rw [← UInt8.toNat_inj, UInt8.toNat_ofNat', eq_comm]
  rfl

/-- No other code point has a newline byte in its encoding, neither in front nor further on. -/
theorem newlineByte_not_mem_utf8EncodeChar {c : Char} (h : c ≠ '\n') : newlineByte ∉ String.utf8EncodeChar c := by
  have hval : c.val.toNat ≠ 10 := fun heq => h (Char.ext (UInt32.toNat_inj.mp heq))
  -- A single byte is the code point itself, and all bytes of a longer encoding are from 128 on.
  fun_cases String.utf8EncodeChar c
  all_goals simp only [List.mem_cons, List.not_mem_nil, or_false, newlineByte_eq_ofNat_iff, not_or]
  all_goals omega

theorem newlineByte_not_mem_utf8 {text : List Char} (h : '\n' ∉ text) : newlineByte ∉ utf8 text := by
  intro hmem
  obtain ⟨c, hc, hbyte⟩ := List.mem_flatMap.mp hmem
  exact newlineByte_not_mem_utf8EncodeChar (fun heq => h (heq ▸ hc)) hbyte

theorem count_utf8 (text : List Char) : (utf8 text).count newlineByte = text.count '\n' := by
  induction text with
  | nil => rfl
  | cons c text ih =>
    rw [utf8_cons, List.count_append, ih]
    by_cases hnewline : c = '\n'
    · subst hnewline
      rw [List.count_cons_self, Nat.add_comm]
      rfl
    · -- The bytes of any other character are no newline.
      rw [List.count_cons_of_ne hnewline, List.count_eq_zero_of_not_mem (newlineByte_not_mem_utf8EncodeChar hnewline),
        Nat.zero_add]

/-! ## Lines of a text -/

/-- The lines of a text that starts at an offset: rows without a newline, each with the newline behind it but for the last,
and each starting where the one before it ends. -/
inductive Lined : Nat → List Char → List SourceLine → Prop where
  | last (start : Nat) {row : List Char} (free : '\n' ∉ row) : Lined start row [⟨start, row⟩]
  | more (start : Nat) {row text : List Char} {lines : List SourceLine} (free : '\n' ∉ row)
      (behind : Lined (start + byteLength row + 1) text lines) :
      Lined start (row ++ '\n' :: text) (⟨start, row ++ ['\n']⟩ :: lines)

/-- Lines are read one code point after the other, with what has been read of the current line held back. -/
theorem lined_linesFrom {start next : Nat} {line : List Char} (text : List Char) (hfree : '\n' ∉ line)
    (hnext : next = start + byteLength line) : Lined start (line.reverse ++ text) (linesFrom start next line text) := by
  -- What has been read of the line is free of newlines, and the next code point comes right behind it.
  induction text generalizing start next line with
  | nil =>
    rw [List.append_nil]
    exact .last start (by rwa [List.mem_reverse])
  | cons c text ih =>
    rw [linesFrom]
    split
    case isTrue hnewline =>
      subst hnewline
      have hafter : next + '\n'.utf8Size = start + byteLength line.reverse + 1 := by
        rw [byteLength_reverse, hnext]
        rfl
      rw [List.reverse_cons, hafter]
      exact .more start (by rwa [List.mem_reverse]) (ih List.not_mem_nil rfl)
    case isFalse hother =>
      have hgrown : '\n' ∉ c :: line := by simp [hfree, Ne.symm hother]
      have hafter : next + c.utf8Size = start + byteLength (c :: line) := by
        rw [byteLength_cons]
        omega
      have hread := ih hgrown hafter
      rwa [List.reverse_cons, List.append_assoc, List.singleton_append] at hread

theorem byteLength_row (row text : List Char) : byteLength (row ++ '\n' :: text) = byteLength row + 1 + byteLength text := by
  rw [byteLength_append, byteLength_cons, ← Nat.add_assoc]
  rfl

/-- An offset of a text lies on a row of it, a part without a newline that is at the front of the text or behind a newline. -/
structure OnRow (text : List Char) (offset : Nat) (upper row lower : List Char) : Prop where
  text_eq : text = upper ++ (row ++ lower)
  free : '\n' ∉ row
  upper_ends : upper = [] ∨ ∃ higher, upper = higher ++ ['\n']
  upper_le : byteLength upper ≤ offset
  le_row : offset ≤ byteLength upper + byteLength row

/-- A row of a text is one of a text that has more lines above it. -/
theorem OnRow.below {text upper row lower : List Char} {offset : Nat} (h : OnRow text offset upper row lower)
    (above : List Char) :
    OnRow (above ++ '\n' :: text) (byteLength above + 1 + offset) (above ++ '\n' :: upper) row lower := by
  have hbytes := byteLength_row above upper
  have hlower := h.upper_le
  have hupper := h.le_row
  refine ⟨by rw [h.text_eq, List.append_assoc, List.cons_append], h.free, .inr ?_, by omega, by omega⟩
  rcases h.upper_ends with rfl | ⟨higher, rfl⟩
  · exact ⟨above, rfl⟩
  · exact ⟨above ++ '\n' :: higher, by simp⟩

namespace Lined

variable {start : Nat} {text : List Char} {lines : List SourceLine}

theorem exists_cons (h : Lined start text lines) : ∃ own others, lines = ⟨start, own⟩ :: others := by
  cases h with
  | last _ free => exact ⟨_, [], rfl⟩
  | more _ free behind => exact ⟨_, _, rfl⟩

/-- A line starts at the front of the text and behind each newline byte. -/
theorem map_start (h : Lined start text lines) :
    lines.map (·.start) = start :: ((utf8 text).idxsOf newlineByte start).map (· + 1) := by
  have hrow : ∀ {row : List Char} (start : Nat), '\n' ∉ row → (utf8 row).idxsOf newlineByte start = [] := by
    intro row start hfree
    apply List.idxsOf_eq_nil_iff.mpr
    intro byte hbyte
    exact beq_eq_false_iff_ne.mpr fun heq => newlineByte_not_mem_utf8 hfree (heq ▸ hbyte)
  induction h with
  | last start free => rw [hrow start free, List.map_singleton, List.map_nil]
  | more start free behind ih =>
    -- The first newline byte is the one behind the row, and the others are those of the lines behind.
    rw [List.map_cons, ih, utf8_append, List.idxsOf_append, hrow start free, List.nil_append, length_utf8]
    rfl

/-- Each offset of the text lies on a row, which is on the last line that the offset has reached. -/
theorem exists_onRow {offset : Nat} (h : Lined start text lines) (hoffset : offset ≤ byteLength text) :
    ∃ upper row stop back, OnRow text offset upper row (stop ++ back) ∧
      (text.splitOn '\n')[upper.count '\n']? = some row ∧
      (lines.takeWhile (·.start ≤ start + offset)).length = upper.count '\n' + 1 ∧
      (lines.takeWhile (·.start ≤ start + offset)).getLast? = some ⟨start + byteLength upper, row ++ stop⟩ := by
  induction h generalizing offset with
  | @last start row free =>
    -- There is one line only, so the offset is on its row.
    refine ⟨[], row, [], [], ⟨by simp, free, .inl rfl, Nat.zero_le offset, by simpa using hoffset⟩, ?_, ?_, ?_⟩
    · rw [List.splitOn_eq_singleton free]
      rfl
    all_goals simp
  | @more start row text lines free behind ih =>
    rw [List.takeWhile_cons_of_pos (by simp), List.splitOn_append_cons_self_of_not_mem free]
    by_cases hnext : byteLength row + 1 ≤ offset
    · -- The next line has been reached as well, and the offset is looked for from there on.
      obtain ⟨further, rfl⟩ := Nat.exists_eq_add_of_le hnext
      have hsum : start + (byteLength row + 1 + further) = start + byteLength row + 1 + further := by omega
      rw [byteLength_row] at hoffset
      obtain ⟨upper, own, stop, back, hrow, hsplit, hlength, hlast⟩ := ih (Nat.le_of_add_le_add_left hoffset)
      have hcount : (row ++ '\n' :: upper).count '\n' = upper.count '\n' + 1 := by
        rw [List.count_append, List.count_cons_self, List.count_eq_zero_of_not_mem free, Nat.zero_add]
      refine ⟨row ++ '\n' :: upper, own, stop, back, hrow.below row, ?_, ?_, ?_⟩
      · rw [hcount, List.getElem?_cons_succ, hsplit]
      · rw [hsum, List.length_cons, hlength, hcount]
      · rw [hsum, List.getLast?_cons, hlast, byteLength_row, ← Nat.add_assoc, ← Nat.add_assoc]
        rfl
    · -- The next line starts further on, so the offset is on the row of this one.
      obtain ⟨own, others, rfl⟩ := behind.exists_cons
      rw [List.takeWhile_cons_of_neg (by simp; omega)]
      exact ⟨[], row, ['\n'], text, ⟨by simp, free, .inl rfl, Nat.zero_le offset, by simp; omega⟩, rfl, rfl, rfl⟩

end Lined

/-! ## Lookups in a table -/

/-- An element of an increasing table is within a bound if and only if it comes before the place that the bound divides. -/
theorem getElem_le_iff_lt_length_takeWhile {table : List Nat} (h : table.Pairwise (· < ·)) (bound number : Nat)
    (hnumber : number < table.length) :
    table[number] ≤ bound ↔ number < (table.takeWhile (· ≤ bound)).length := by
  induction table generalizing number with
  | nil => exact absurd hnumber (Nat.not_lt_zero number)
  | cons first table ih =>
    obtain ⟨hfirst, hrest⟩ := List.pairwise_cons.mp h
    by_cases hle : first ≤ bound
    · rw [List.takeWhile_cons_of_pos (by simpa using hle), List.length_cons]
      cases number with
      | zero => simpa using hle
      | succ number => simpa using ih hrest number (by simpa using hnumber)
    · rw [List.takeWhile_cons_of_neg (by simpa using hle)]
      cases number with
      | zero => simpa using hle
      | succ number =>
        -- What comes behind a start past the bound is past it too.
        have hlater := hfirst _ (List.getElem_mem (by simpa using hnumber : number < table.length))
        simp only [List.getElem_cons_succ, List.length_nil, Nat.not_lt_zero, iff_false]
        omega

/-- The last element of a table before a division stands one place before the division. -/
theorem getElem?_of_getLast?_takeWhile {α : Type} {table : List α} {p : α → Bool} {last : α}
    (h : (table.takeWhile p).getLast? = some last) : table[(table.takeWhile p).length - 1]? = some last := by
  obtain ⟨rest, htable⟩ := List.takeWhile_prefix p (l := table)
  rw [List.getLast?_eq_getElem?] at h
  obtain ⟨hlast, -⟩ := List.getElem?_eq_some_iff.mp h
  have hfront : (table.takeWhile p ++ rest)[(table.takeWhile p).length - 1]? = some last := by
    rw [List.getElem?_append_left hlast, h]
  rwa [htable] at hfront

namespace LineIndex

variable (source : String)

theorem lined_ofSource : Lined 0 source.toList (ofSource source).lines :=
  lined_linesFrom source.toList List.not_mem_nil rfl

/-- **A line starts at zero and behind each newline byte.** -/
theorem starts_ofSource : (ofSource source).starts = 0 :: ((utf8 source.toList).idxsOf newlineByte).map (· + 1) :=
  (lined_ofSource source).map_start

theorem pairwise_starts : (ofSource source).starts.Pairwise (· < ·) := by
  rw [starts_ofSource, List.pairwise_cons, List.pairwise_map]
  constructor
  · intro start hstart
    obtain ⟨before, -, rfl⟩ := List.mem_map.mp hstart
    exact Nat.succ_pos before
  · exact List.pairwise_idxsOf.imp fun hlt => Nat.add_lt_add_right hlt 1

end LineIndex

end Highlighter
