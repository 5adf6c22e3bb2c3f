import Highlighter.Delimiter
import Mathlib.Data.List.Chain
import Mathlib.Data.List.Infix
import Mathlib.Data.List.TakeWhile

/-!
# Spans of a text

Says what a span is without scanning for it: a marker pair, a content that is not empty and holds no marker, and
a marker pair, anywhere in the text. Main statements: the segments of a text are the text again once the
contents get their marker pairs back, no two plain segments are neighbours, and no plain segment has a span.
So a text has a span exactly if one of its segments is marked.

A scan that took some span other than the leftmost would leave a plain segment with a span in it; the argument is
that a span at the front of a plain segment is also a span at the front of all that is left of the text.
-/

namespace Highlighter

/-! ## Spans -/

/-- A content between its marker pairs. -/
def fenced (marker : Char) (content : List Char) : List Char :=
  marker :: marker :: (content ++ [marker, marker])

/-- A text has a span if a content that is not empty and holds no marker stands in it between marker pairs. -/
def HasSpan (marker : Char) (text : List Char) : Prop :=
  ∃ content, content ≠ [] ∧ marker ∉ content ∧ fenced marker content <:+: text

/-- A span in a piece of a text is a span of the text. -/
theorem HasSpan.of_infix {marker : Char} {piece text : List Char} (h : HasSpan marker piece)
    (hpiece : piece <:+: text) : HasSpan marker text := by
  obtain ⟨content, hne, hfree, hspan⟩ := h
  exact ⟨content, hne, hfree, hspan.trans hpiece⟩

theorem not_hasSpan_nil (marker : Char) : ¬HasSpan marker [] := by
  rintro ⟨content, -, -, hspan⟩
  simp [fenced] at hspan

theorem not_hasSpan_of_not_mem {marker : Char} {text : List Char} (h : marker ∉ text) :
    ¬HasSpan marker text := by
  rintro ⟨content, -, -, hspan⟩
  exact h (hspan.mem (by simp [fenced]))

/-- What is read at the front of a text is a content between marker pairs. -/
theorem eq_fenced_of_spanAtFront? {marker : Char} {text content rest : List Char}
    (h : spanAtFront? marker text = some (content, rest)) :
    content ≠ [] ∧ marker ∉ content ∧ text = fenced marker content ++ rest := by
  match text with
  | [] => simp [spanAtFront?] at h
  | [_] => simp [spanAtFront?] at h
  | a :: b :: text =>
    -- Of the branches only the one with both markers, a content and a closing pair has a result.
    simp only [spanAtFront?] at h
    split at h
    case isFalse => contradiction
    case isTrue hopen =>
      obtain ⟨ha, hb⟩ := hopen
      split at h
      case h_2 => contradiction
      case h_1 c own stop d after htake hdrop =>
        split at h
        case isFalse => contradiction
        case isTrue hclose =>
          simp only [Option.some.injEq, Prod.mk.injEq] at h
          obtain ⟨rfl, rfl⟩ := h
          -- The content stops at the first marker, so it holds none.
          have hstop : stop = marker := by
            have hhead := List.head?_dropWhile_not (fun x => decide (x ≠ marker)) text
            rw [hdrop] at hhead
            simpa using hhead
          have htext := List.takeWhile_append_dropWhile (p := fun x => decide (x ≠ marker)) (l := text)
          rw [htake, hdrop] at htext
          refine ⟨by simp, fun hmem => ?_, ?_⟩
          · rw [← htake] at hmem
            simpa using List.mem_takeWhile_imp hmem
          · simp [fenced, ← htext, hstop, hclose, ha, hb]

/-- What has a property, in front of what has it not, is read by going on as far as the property does. -/
theorem takeWhile_append_of_head? {α : Type} {p : α → Bool} {xs ys : List α} (hall : ∀ a ∈ xs, p a = true)
    (hhead : ∀ a ∈ ys.head?, p a = false) : (xs ++ ys).takeWhile p = xs := by
  rw [List.takeWhile_append_of_pos hall]
  cases ys with
  | nil => simp
  | cons a ys => simp [hhead a rfl]

/-- A piece without markers is read up to the next marker. -/
theorem takeWhile_piece {marker : Char} {piece rest : List Char} (hfree : marker ∉ piece) :
    (piece ++ marker :: rest).takeWhile (fun x => decide (x ≠ marker)) = piece := by
  apply takeWhile_append_of_head?
  · intro x hx
    rw [decide_eq_true_eq]
    rintro rfl
    exact hfree hx
  · simp

theorem spanAtFront?_fenced {marker : Char} {content : List Char} (rest : List Char)
    (hne : content ≠ []) (hfree : marker ∉ content) :
    spanAtFront? marker (fenced marker content ++ rest) = some (content, rest) := by
  -- The scan takes the whole content, and stops at the first marker of the closing pair.
  have htake : (content ++ marker :: marker :: rest).takeWhile (fun x => decide (x ≠ marker)) = content :=
    takeWhile_piece hfree
  have hdrop : (content ++ marker :: marker :: rest).dropWhile (fun x => decide (x ≠ marker)) =
      marker :: marker :: rest := by
    have hwhole := List.takeWhile_append_dropWhile (p := fun x => decide (x ≠ marker))
      (l := content ++ marker :: marker :: rest)
    rw [htake] at hwhole
    exact List.append_cancel_left hwhole
  have htext : fenced marker content ++ rest = marker :: marker :: (content ++ marker :: marker :: rest) := by
    simp [fenced]
  obtain ⟨c, content, rfl⟩ := List.exists_cons_of_ne_nil hne
  rw [htext]
  simp only [spanAtFront?, htake, hdrop, and_self, ↓reduceIte]

/-- A text has a span at its front, or the span is in what follows the first character. -/
theorem hasSpan_cons_iff {marker c : Char} {text : List Char} :
    HasSpan marker (c :: text) ↔
      spanAtFront? marker (c :: text) ≠ none ∨ HasSpan marker text := by
  constructor
  · rintro ⟨content, hne, hfree, hspan⟩
    -- The span starts with the first character, or lies behind it.
    rcases List.infix_cons_iff.mp hspan with ⟨rest, hfront⟩ | hspan
    · left
      rw [← hfront, spanAtFront?_fenced rest hne hfree]
      simp
    · exact .inr ⟨content, hne, hfree, hspan⟩
  · rintro (hfront | hspan)
    · obtain ⟨⟨content, rest⟩, hfront⟩ := Option.ne_none_iff_exists'.mp hfront
      obtain ⟨hne, hfree, htext⟩ := eq_fenced_of_spanAtFront? hfront
      exact ⟨content, hne, hfree, htext ▸ (List.prefix_append ..).isInfix⟩
    · exact hspan.of_infix (List.suffix_cons ..).isInfix

/-- Where a text has no span at its front, neither has any shorter text that it starts with. -/
theorem spanAtFront?_eq_none_of_append {marker : Char} {text more : List Char}
    (h : spanAtFront? marker (text ++ more) = none) : spanAtFront? marker text = none := by
  rw [Option.eq_none_iff_forall_ne_some] at h ⊢
  rintro ⟨content, rest⟩ hfront
  obtain ⟨hne, hfree, rfl⟩ := eq_fenced_of_spanAtFront? hfront
  -- A span at the front of the shorter text is one at the front of the longer text, with more left behind it.
  apply h (content, rest ++ more)
  rw [List.append_assoc]
  exact spanAtFront?_fenced _ hne hfree

/-! ## Segments -/

namespace Segment

/-- The text that a segment was cut from. -/
def written (marker : Char) : Segment → List Char
  | plain text => text
  | marked content => fenced marker content

/-- What a segment must look like: a plain one is not empty and has no span, a content is not empty and
holds no marker. -/
def Proper (marker : Char) : Segment → Prop
  | plain text => text ≠ [] ∧ ¬HasSpan marker text
  | marked content => content ≠ [] ∧ marker ∉ content

/-- Of two neighbours at least one is the content of a span. -/
def Apart (a b : Segment) : Prop := a.isMarked = true ∨ b.isMarked = true

end Segment

theorem segments_nil (marker : Char) : segments marker [] = [] := by
  rw [segments]
  simp [spanAtFront?]

theorem segments_of_span {marker : Char} {text content rest : List Char}
    (h : spanAtFront? marker text = some (content, rest)) :
    segments marker text = .marked content :: segments marker rest := by
  rw [segments]
  split
  · next hfront =>
    rw [h] at hfront
    cases hfront
    rfl
  · next hfront => simp [h] at hfront

theorem segments_cons {marker c : Char} {text : List Char}
    (h : spanAtFront? marker (c :: text) = none) :
    segments marker (c :: text) = consPlain c (segments marker text) := by
  rw [segments]
  split
  · next hfront => simp [h] at hfront
  · rfl

theorem segments_fenced {marker : Char} {content : List Char} (rest : List Char) (hne : content ≠ [])
    (hfree : marker ∉ content) :
    segments marker (fenced marker content ++ rest) = .marked content :: segments marker rest :=
  segments_of_span (spanAtFront?_fenced rest hne hfree)

/-- Induction along the cuts of a text: at its front it has a span, which is cut off whole, or it has none, and the
first character goes to a plain segment. -/
theorem segments_induction (marker : Char) {motive : List Char → Prop} (text : List Char)
    (nil : motive [])
    (span : ∀ content rest, content ≠ [] → marker ∉ content → motive rest →
      motive (fenced marker content ++ rest))
    (plain : ∀ c text, spanAtFront? marker (c :: text) = none → motive text → motive (c :: text)) :
    motive text := by
  induction text using segments.induct marker with
  | case1 text content rest hfront ih =>
    obtain ⟨hne, hfree, rfl⟩ := eq_fenced_of_spanAtFront? hfront
    exact span content rest hne hfree ih
  | case2 => exact nil
  | case3 c text hfront ih => exact plain c text hfront ih

/-- A character put in front of segments makes the first plain segment longer, or becomes one of its own if the
segments start with a content or are none at all. -/
theorem consPlain_cases (c : Char) (segments : List Segment) :
    ∃ gap rest, consPlain c segments = .plain (c :: gap) :: rest ∧
      (segments = .plain gap :: rest ∨
        gap = [] ∧ segments = rest ∧ ∀ next ∈ rest.head?, next.isMarked = true) := by
  match segments with
  | [] => exact ⟨[], [], rfl, .inr ⟨rfl, rfl, by simp⟩⟩
  | .plain gap :: rest => exact ⟨gap, rest, rfl, .inl rfl⟩
  | .marked content :: rest =>
    refine ⟨[], .marked content :: rest, rfl, .inr ⟨rfl, rfl, ?_⟩⟩
    simp [Segment.isMarked]

/-- Nothing of a text is lost in its segments. -/
theorem flatMap_written_segments (marker : Char) (text : List Char) :
    (segments marker text).flatMap (Segment.written marker) = text := by
  induction text using segments_induction marker with
  | nil => simp [segments_nil]
  | span content rest hne hfree ih => simp [segments_fenced rest hne hfree, Segment.written, ih]
  | plain c text hfront ih =>
    obtain ⟨gap, rest, hcons, hcut⟩ := consPlain_cases c (segments marker text)
    -- The gap and the segments behind it read as the text behind the character.
    have hrest : gap ++ rest.flatMap (Segment.written marker) = text := by
      rcases hcut with hcut | ⟨rfl, hcut, -⟩
      · simpa [hcut, Segment.written] using ih
      · simpa [hcut] using ih
    rw [segments_cons hfront, hcons, List.flatMap_cons, Segment.written, List.cons_append, hrest]

/-- No two neighbours among the segments of a text are plain. -/
theorem isChain_segments (marker : Char) (text : List Char) :
    (segments marker text).IsChain Segment.Apart := by
  induction text using segments_induction marker with
  | nil => simp [segments_nil]
  -- A marked segment may stand beside any other.
  | span content rest hne hfree ih =>
    rw [segments_fenced rest hne hfree]
    exact List.isChain_cons.mpr ⟨fun _ _ => .inl rfl, ih⟩
  | plain c text hfront ih =>
    obtain ⟨gap, rest, hcons, hcut | ⟨rfl, hcut, hnext⟩⟩ := consPlain_cases c (segments marker text)
    · -- What stands behind the longer segment is the same as before.
      rw [hcut, List.isChain_cons] at ih
      rw [segments_cons hfront, hcons]
      exact List.isChain_cons.mpr ⟨ih.1, ih.2⟩
    · -- A new plain segment is made where none stands in front of the rest.
      rw [hcut] at ih
      rw [segments_cons hfront, hcons]
      exact List.isChain_cons.mpr ⟨fun next hmem => .inr (hnext next hmem), ih⟩

theorem proper_of_mem_segments {marker : Char} {text : List Char} {segment : Segment}
    (h : segment ∈ segments marker text) : segment.Proper marker := by
  induction text using segments_induction marker generalizing segment with
  | nil => simp [segments_nil] at h
  | span content rest hne hfree ih =>
    rw [segments_fenced rest hne hfree] at h
    rcases List.mem_cons.mp h with rfl | h
    · exact ⟨hne, hfree⟩
    · exact ih h
  | plain c text hfront ih =>
    have hlossless := flatMap_written_segments marker (c :: text)
    obtain ⟨gap, rest, hcons, hcut⟩ := consPlain_cases c (segments marker text)
    rw [segments_cons hfront, hcons] at h hlossless
    rcases List.mem_cons.mp h with rfl | h
    · -- The gap is the front of the text, so a span at its front would have been cut off.
      have hgap : ¬HasSpan marker gap := by
        rcases hcut with hcut | ⟨rfl, -, -⟩
        · have hproper : (Segment.plain gap).Proper marker := ih (hcut ▸ List.mem_cons_self ..)
          exact hproper.2
        · exact not_hasSpan_nil marker
      rw [← hlossless, List.flatMap_cons] at hfront
      have hnone := spanAtFront?_eq_none_of_append hfront
      refine ⟨by simp, fun hspan => ?_⟩
      rcases hasSpan_cons_iff.mp hspan with hsome | hspan
      · exact hsome hnone
      · exact hgap hspan
    · -- The segments behind the gap are also segments of the text behind the character.
      rcases hcut with hcut | ⟨-, hcut, -⟩
      · exact ih (hcut ▸ List.mem_cons_of_mem _ h)
      · exact ih (hcut ▸ h)

theorem written_infix_of_mem_segments {marker : Char} {text : List Char} {segment : Segment}
    (h : segment ∈ segments marker text) : segment.written marker <:+: text := by
  have hpiece := List.infix_of_mem_flatten (List.mem_map_of_mem (f := Segment.written marker) h)
  rwa [← List.flatMap_def, flatMap_written_segments] at hpiece

/-! ## Texts with and without spans -/

/-- Segments of which none is marked are at most one. -/
theorem segments_of_not_any_isMarked {marker : Char} {text : List Char} (hne : text ≠ [])
    (h : (segments marker text).any (·.isMarked) = false) : segments marker text = [.plain text] := by
  have hlossless := flatMap_written_segments marker text
  have hchain := isChain_segments marker text
  match hcut : segments marker text with
  | [] =>
    rw [hcut] at hlossless
    exact absurd hlossless.symm hne
  | [.plain gap] =>
    rw [hcut] at hlossless
    obtain rfl : gap = text := by simpa [Segment.written] using hlossless
    rfl
  | .marked content :: rest => simp [hcut, Segment.isMarked] at h
  | .plain gap :: .marked content :: rest => simp [hcut, Segment.isMarked] at h
  | .plain gap :: .plain gap' :: rest =>
    -- Two plain segments are never neighbours.
    rw [hcut, List.isChain_cons_cons] at hchain
    simp [Segment.Apart, Segment.isMarked] at hchain

/-- A text has a span exactly if one of its segments is marked. -/
theorem any_isMarked_segments_iff {marker : Char} {text : List Char} :
    (segments marker text).any (·.isMarked) = true ↔ HasSpan marker text := by
  constructor
  · intro h
    obtain ⟨segment, hmem, hmarked⟩ := List.any_eq_true.mp h
    match segment with
    | .plain gap => simp [Segment.isMarked] at hmarked
    | .marked content =>
      obtain ⟨hne, hfree⟩ := proper_of_mem_segments hmem
      exact ⟨content, hne, hfree, written_infix_of_mem_segments hmem⟩
  · intro hspan
    -- Were no segment marked, the text would be one plain segment, and these have no spans.
    by_contra h
    rw [Bool.not_eq_true] at h
    have hne : text ≠ [] := by
      rintro rfl
      exact not_hasSpan_nil marker hspan
    have hcut := segments_of_not_any_isMarked hne h
    have hplain : Segment.plain text ∈ segments marker text := by rw [hcut]; simp
    exact (proper_of_mem_segments hplain).2 hspan

namespace Delimiter

/-- A delimiter matches a text exactly if the text has a span. -/
theorem isMatch_iff (delimiter : Delimiter) (text : String) :
    delimiter.isMatch text = true ↔ HasSpan delimiter.marker text.toList :=
  any_isMarked_segments_iff

end Delimiter

instance (marker : Char) (text : List Char) : Decidable (HasSpan marker text) :=
  decidable_of_iff _ any_isMarked_segments_iff

end Highlighter
