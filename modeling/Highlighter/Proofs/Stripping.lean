import Highlighter.Proofs.Splitting

/-!
# Stripping the marker pairs

What is left of a text when the marker pairs of its spans are taken off is said by one scan from left to right, which
looks ahead at each place. Main statement: the values of the nodes that a text is cut into, one after the other, are what
the scan leaves.

The scan and the cut go forward together. Where a span begins both pass behind it, and anywhere else both pass one
character.
-/

namespace Highlighter

/-- What a scan from left to right leaves of a text. Where a marker pair is followed by a piece that is not empty and holds
no marker, and this by another marker pair, the piece is left, and the scan goes on behind the second pair. Anywhere else
one character is left. -/
def strip (marker : Char) : List Char → List Char
  | [] => []
  | c :: text =>
    let inner := text.drop 1
    let piece := inner.takeWhile (· ≠ marker)
    if [marker, marker] <+: c :: text ∧ piece ≠ [] ∧ [marker, marker] <+: inner.drop piece.length then
      piece ++ strip marker (inner.drop (piece.length + 2))
    else c :: strip marker text
termination_by text => text.length
decreasing_by
  · simp only [List.length_drop, List.length_cons]
    omega
  · simp

section

variable {marker c : Char} {text content rest : List Char}

/-- Of a span its content is left. -/
theorem strip_fenced (hne : content ≠ []) (hfree : marker ∉ content) :
    strip marker (fenced marker content ++ rest) = content ++ strip marker rest := by
  have htext : fenced marker content ++ rest = marker :: marker :: (content ++ marker :: marker :: rest) := by
    simp [fenced]
  rw [htext, strip]
  simp only [List.drop_succ_cons, List.drop_zero, takeWhile_piece hfree]
  rw [if_pos ⟨by simp, hne, by simp⟩, List.drop_append, List.drop_of_length_le (by omega)]
  simp

/-- A character at which no span begins is left. -/
theorem strip_cons (h : spanAtFront? marker (c :: text) = none) :
    strip marker (c :: text) = c :: strip marker text := by
  rw [strip]
  refine if_neg ?_
  rintro ⟨⟨behind, hopen⟩, hne, ⟨rest, hclose⟩⟩
  obtain ⟨rfl, rfl⟩ : marker = c ∧ marker :: behind = text := by simpa using hopen
  -- Where the scan would take off marker pairs there would be a span.
  simp only [List.drop_succ_cons, List.drop_zero] at hne hclose
  have hfree : marker ∉ behind.takeWhile (· ≠ marker) := fun hmem => by
    simpa using List.mem_takeWhile_imp hmem
  have hbehind := List.prefix_iff_eq_append.mp (List.takeWhile_prefix (l := behind) (· ≠ marker))
  rw [← hclose] at hbehind
  have htext : marker :: marker :: behind = fenced marker (behind.takeWhile (· ≠ marker)) ++ rest := by
    simpa [fenced] using hbehind.symm
  rw [htext, spanAtFront?_fenced rest hne hfree] at h
  contradiction

end

namespace Segment

/-- What a segment leaves without marker pairs. -/
def content : Segment → List Char
  | plain text => text
  | marked content => content

theorem value?_toNode (position : Option Position) (segment : Segment) :
    (segment.toNode position).value? = some (String.ofList segment.content) := by
  cases segment <;> rfl

end Segment

/-- The segments of a text leave what the scan leaves. -/
theorem flatMap_content_segments (marker : Char) (text : List Char) :
    (segments marker text).flatMap Segment.content = strip marker text := by
  induction text using segments_induction marker with
  | nil => simp [segments_nil, strip]
  | span content rest hne hfree ih =>
    rw [segments_fenced rest hne hfree, strip_fenced hne hfree, List.flatMap_cons, ih, Segment.content]
  | plain c text hfront ih =>
    rw [segments_cons hfront, strip_cons hfront, ← ih]
    -- The character goes to a plain segment, which leaves all it has.
    obtain ⟨gap, rest, hcons, hcut | ⟨rfl, rfl, -⟩⟩ := consPlain_cases c (segments marker text)
    · rw [hcons, hcut, List.flatMap_cons, List.flatMap_cons, Segment.content, Segment.content, List.cons_append]
    · rw [hcons, List.flatMap_cons, Segment.content, List.singleton_append]

namespace Delimiter

/-- A text without the marker pairs of its spans. -/
def stripped (delimiter : Delimiter) (text : String) : String := String.ofList (strip delimiter.marker text.toList)

variable (delimiter : Delimiter) (text : String) (position : Option Position)

/-- The values of the nodes that a text is cut into are what its segments leave. -/
theorem join_values_split :
    String.join ((delimiter.split text position).filterMap Node.value?) =
      String.ofList ((segments delimiter.marker text.toList).flatMap Segment.content) := by
  rcases delimiter.split_cases text position with ⟨rfl, hsplit⟩ | ⟨-, hsplit⟩
  · simp [hsplit, Node.value?, segments_nil]
  · have hvalues : Node.value? ∘ Segment.toNode position = some ∘ fun segment => String.ofList segment.content :=
      funext fun segment => segment.value?_toNode position
    apply String.toList_injective
    rw [hsplit, List.filterMap_map, hvalues, List.filterMap_eq_map, String.toList_join, List.flatMap_map,
      String.toList_ofList]
    simp only [String.toList_ofList]

/-- **The nodes that a text is cut into have the values that stripping leaves**, one after the other. -/
theorem values_split_eq_stripped :
    String.join ((delimiter.split text position).filterMap Node.value?) = delimiter.stripped text := by
  rw [join_values_split, flatMap_content_segments, stripped]

end Delimiter

end Highlighter
