import Highlighter.Proofs.Spans

/-!
# Gaps between spans

A gap is what a text begins with if no span of the text starts in it. Main statements: a gap becomes plain, and what
follows it is cut by itself; and the other way around, a plain segment is a gap in front of the segments that follow it.

A span that starts in front of a marker pair may reach into the pair, but not behind it, since a content holds no
marker. So a piece in front of a marker pair is a gap exactly if it has no span together with the pair.
-/

namespace Highlighter

/-! ## Plain text in front of segments -/

/-- Puts a piece of text in front of the first plain segment. -/
def prependPlain (text : List Char) : List Segment → List Segment
  | .plain gap :: segments => .plain (text ++ gap) :: segments
  | segments => if text = [] then segments else .plain text :: segments

@[simp] theorem prependPlain_nil (segments : List Segment) : prependPlain [] segments = segments := by
  match segments with
  | [] => rfl
  | .plain gap :: segments => rfl
  | .marked content :: segments => rfl

theorem prependPlain_cons (c : Char) (text : List Char) (segments : List Segment) :
    prependPlain (c :: text) segments = consPlain c (prependPlain text segments) := by
  match segments with
  | [] => cases text <;> rfl
  | .plain gap :: segments => rfl
  | .marked content :: segments => cases text <;> rfl

theorem prependPlain_append (front text : List Char) (segments : List Segment) :
    prependPlain (front ++ text) segments = prependPlain front (prependPlain text segments) := by
  induction front with
  | nil => simp
  | cons c front ih => rw [List.cons_append, prependPlain_cons, ih, ← prependPlain_cons]

/-- A text becomes a segment of its own unless it meets a plain one. -/
theorem prependPlain_of_ne_nil {text : List Char} {segments : List Segment} (hne : text ≠ [])
    (h : ∀ next ∈ segments.head?, next.isMarked = true) : prependPlain text segments = .plain text :: segments := by
  cases segments with
  | nil => simp [prependPlain, hne]
  | cons segment segments =>
    cases segment with
    | plain gap => simpa [Segment.isMarked] using h (.plain gap) rfl
    | marked content => simp [prependPlain, hne]

/-! ## Gaps -/

/-- No span of the text `gap ++ rest` starts in `gap`. -/
def IsGap (marker : Char) (gap rest : List Char) : Prop :=
  ∀ tail, tail ≠ [] → tail <:+ gap → spanAtFront? marker (tail ++ rest) = none

section

variable {marker : Char} {gap rest : List Char}

theorem isGap_nil : IsGap marker [] rest := by
  intro tail hne htail
  exact absurd (List.suffix_nil.mp htail) hne

theorem isGap_cons_iff {c : Char} :
    IsGap marker (c :: gap) rest ↔ spanAtFront? marker (c :: (gap ++ rest)) = none ∧ IsGap marker gap rest := by
  constructor
  · -- The tails of the gap are the gap itself and those behind its first character.
    intro h
    exact ⟨h (c :: gap) (by simp) List.suffix_rfl, fun tail hne htail =>
      h tail hne (htail.trans (List.suffix_cons ..))⟩
  · rintro ⟨hfront, h⟩ tail hne htail
    rcases List.suffix_cons_iff.mp htail with rfl | htail
    · exact hfront
    · exact h tail hne htail

theorem isGap_append_iff {front : List Char} :
    IsGap marker (front ++ gap) rest ↔ IsGap marker front (gap ++ rest) ∧ IsGap marker gap rest := by
  induction front with
  | nil => simp [isGap_nil]
  | cons c front ih => rw [List.cons_append, isGap_cons_iff, isGap_cons_iff, ih, List.append_assoc, and_assoc]

/-- Spans start with a marker. -/
theorem isGap_of_not_mem (h : marker ∉ gap) : IsGap marker gap rest := by
  intro tail hne htail
  rw [Option.eq_none_iff_forall_ne_some]
  rintro ⟨content, behind⟩ hfront
  obtain ⟨c, tail, rfl⟩ := List.exists_cons_of_ne_nil hne
  obtain ⟨-, -, htext⟩ := eq_fenced_of_spanAtFront? hfront
  rw [List.cons_append, fenced, List.cons_append, List.cons.injEq] at htext
  exact h (htext.1 ▸ htail.mem List.mem_cons_self)

/-- A text has no span exactly if none starts in its front or lies behind that. -/
theorem not_hasSpan_append_iff :
    ¬HasSpan marker (gap ++ rest) ↔ IsGap marker gap rest ∧ ¬HasSpan marker rest := by
  induction gap with
  | nil => simp [isGap_nil]
  | cons c gap ih => rw [List.cons_append, hasSpan_cons_iff, not_or, ih, isGap_cons_iff, not_not, and_assoc]

theorem isGap_nil_right_iff : IsGap marker gap [] ↔ ¬HasSpan marker gap := by
  have h : ¬HasSpan marker (gap ++ []) ↔ IsGap marker gap [] ∧ ¬HasSpan marker [] := not_hasSpan_append_iff
  rw [List.append_nil, and_iff_left (not_hasSpan_nil marker)] at h
  exact h.symm

/-! ## Gaps and segments -/

theorem segments_append (h : IsGap marker gap rest) :
    segments marker (gap ++ rest) = prependPlain gap (segments marker rest) := by
  induction gap with
  | nil => simp
  | cons c gap ih =>
    obtain ⟨hfront, h⟩ := isGap_cons_iff.mp h
    rw [List.cons_append, segments_cons hfront, ih h, prependPlain_cons]

/-- What stands behind a segment is cut by itself. -/
theorem segments_flatMap_written {text : List Char} {segment : Segment} {later : List Segment}
    (h : segments marker text = segment :: later) :
    segments marker (later.flatMap (Segment.written marker)) = later := by
  induction text using segments_induction marker generalizing segment with
  | nil => simp [segments_nil] at h
  | span content rest hne hfree ih =>
    -- Behind a span the cut starts anew, so the other segments are those of a text.
    rw [segments_fenced rest hne hfree] at h
    obtain ⟨-, rfl⟩ := List.cons.inj h
    rw [flatMap_written_segments]
  | plain c text hfront ih =>
    obtain ⟨gap, rest, hcons, hcut⟩ := consPlain_cases c (segments marker text)
    rw [segments_cons hfront, hcons] at h
    obtain ⟨-, rfl⟩ := List.cons.inj h
    -- The segments behind the first one are also those behind the first one of the shorter text, or all of that.
    rcases hcut with hcut | ⟨-, rfl, -⟩
    · exact ih hcut
    · rw [flatMap_written_segments]

theorem isGap_of_segments {text : List Char} {later : List Segment} (h : segments marker text = .plain gap :: later) :
    IsGap marker gap (later.flatMap (Segment.written marker)) := by
  induction text using segments_induction marker generalizing gap with
  | nil => simp [segments_nil] at h
  | span content rest hne hfree ih => simp [segments_fenced rest hne hfree] at h
  | plain c text hfront ih =>
    have hlossless := flatMap_written_segments marker (c :: text)
    obtain ⟨own, rest, hcons, hcut⟩ := consPlain_cases c (segments marker text)
    rw [h, List.flatMap_cons, Segment.written] at hlossless
    rw [segments_cons hfront, hcons] at h
    obtain ⟨hgap, rfl⟩ := List.cons.inj h
    obtain rfl : c :: own = gap := by simpa using hgap
    -- The gap and what follows it are the text, which has no span at its front. The rest of the gap is a shorter one.
    refine isGap_cons_iff.mpr ⟨?_, ?_⟩
    · rwa [← List.cons_append, hlossless]
    · rcases hcut with hcut | ⟨rfl, -, -⟩
      · exact ih hcut
      · exact isGap_nil

/-- A piece is a plain segment exactly if it is a gap, and what follows it starts with no plain segment. -/
theorem segments_append_eq_cons_iff {later : List Segment} (hne : gap ≠ [])
    (hnext : ∀ next ∈ later.head?, next.isMarked = true) :
    segments marker (gap ++ later.flatMap (Segment.written marker)) = .plain gap :: later ↔
      IsGap marker gap (later.flatMap (Segment.written marker)) ∧
        segments marker (later.flatMap (Segment.written marker)) = later := by
  constructor
  · intro h
    exact ⟨isGap_of_segments h, segments_flatMap_written h⟩
  · rintro ⟨hgap, hlater⟩
    rw [segments_append hgap, hlater, prependPlain_of_ne_nil hne hnext]

/-! ## In front of a marker pair -/

/-- A marker pair inside a span, not at its front, is the one at its end. -/
theorem eq_nil_of_fenced_eq {content more : List Char} (hne : gap ≠ []) (hcontent : content ≠ [])
    (hfree : marker ∉ content) (h : fenced marker content = gap ++ marker :: marker :: more) : more = [] := by
  obtain ⟨c, content, rfl⟩ := List.exists_cons_of_ne_nil hcontent
  match gap with
  | [a] =>
    -- The pair would begin with the second marker of the opening pair, and end with the first character of the content.
    simp only [fenced, List.cons_append, List.nil_append, List.cons.injEq] at h
    exact absurd (h.2.2.1 ▸ List.mem_cons_self) hfree
  | a :: b :: gap =>
    simp only [fenced, List.cons_append, List.cons.injEq] at h
    obtain ⟨-, -, h⟩ := h
    rw [← List.cons_append] at h
    rcases List.append_eq_append_iff.mp h with ⟨between, -, hpair⟩ | ⟨between, hbetween, hpair⟩
    · have hlength := congrArg List.length hpair
      simp only [List.length_append, List.length_cons, List.length_nil] at hlength
      exact List.eq_nil_of_length_eq_zero (by omega)
    · -- The pair would begin in the content.
      cases between with
      | nil => simpa using hpair
      | cons d between =>
        obtain ⟨rfl, -⟩ := List.cons.inj hpair
        exact absurd (hbetween ▸ List.mem_append_right gap List.mem_cons_self) hfree

/-- A span that starts in front of a marker pair ends with it at the latest. -/
theorem spanAtFront?_append_pair_eq_none_iff (hne : gap ≠ []) :
    spanAtFront? marker (gap ++ marker :: marker :: rest) = none ↔
      spanAtFront? marker (gap ++ [marker, marker]) = none := by
  have hsplit : gap ++ marker :: marker :: rest = gap ++ [marker, marker] ++ rest := by simp
  constructor
  · intro h
    rw [hsplit] at h
    exact spanAtFront?_eq_none_of_append h
  · intro h
    -- A span at the front would be one of the shorter text as well.
    rw [Option.eq_none_iff_forall_ne_some]
    rintro ⟨content, behind⟩ hfront
    obtain ⟨hcontent, hfree, htext⟩ := eq_fenced_of_spanAtFront? hfront
    -- The span reaches to the end of the pair or beyond, or ends in front of that.
    rw [hsplit] at htext
    rcases List.append_eq_append_iff.mp htext with ⟨more, hspan, -⟩ | ⟨more, hfronts, -⟩
    · rw [List.append_assoc] at hspan
      obtain rfl := eq_nil_of_fenced_eq hne hcontent hfree hspan
      rw [List.append_nil] at hspan
      rw [← hspan, ← List.append_nil (fenced marker content), spanAtFront?_fenced [] hcontent hfree] at h
      contradiction
    · rw [hfronts, spanAtFront?_fenced more hcontent hfree] at h
      contradiction

theorem isGap_pair_iff :
    IsGap marker gap (marker :: marker :: rest) ↔ ¬HasSpan marker (gap ++ [marker, marker]) := by
  have hpair : ¬HasSpan marker [marker, marker] := by
    -- A span has four markers and a content.
    rintro ⟨content, -, -, hspan⟩
    have hlength := hspan.length_le
    simp [fenced] at hlength
  rw [not_hasSpan_append_iff, and_iff_left hpair]
  exact forall₃_congr fun tail hne _ => spanAtFront?_append_pair_eq_none_iff hne

end

end Highlighter
