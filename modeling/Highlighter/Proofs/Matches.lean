import Highlighter.Proofs.Spans
import Highlighter.Split

/-!
# The matches of a text

Says which list of matches a scan from left to right has to find, without scanning: each match is that of a span, no two
share a byte, and no span starts in a gap between them. Main statement: each text has exactly one such list, and it is the
one that is found. The nodes that a text is cut into are then the slices between the matches and inside them.

Texts are looked at from some offset on. A text without a span at its front has the matches of what follows its first
character. A text with one has it as first match, and behind it the matches of what follows.
-/

namespace Highlighter

/-! ## Places of spans -/

/-- In a text that begins at an offset, a content that is not empty and holds no marker stands between marker pairs from
`start` on. -/
def SpanAt (marker : Char) (offset : Nat) (text : List Char) (start : Nat) (content : List Char) : Prop :=
  content ≠ [] ∧ marker ∉ content ∧
    ∃ before rest, text = before ++ (fenced marker content ++ rest) ∧ start = offset + byteLength before

theorem byteLength_fenced (marker : Char) (content : List Char) :
    byteLength (fenced marker content) = 4 * marker.utf8Size + byteLength content := by
  simp only [fenced, byteLength_cons, byteLength_append, byteLength_nil]
  omega

theorem byteLength_fenced_pos (marker : Char) (content : List Char) : 0 < byteLength (fenced marker content) := by
  have hpos := marker.utf8Size_pos
  rw [byteLength_fenced]
  omega

section

variable {marker : Char} {offset start : Nat} {text content : List Char}

/-- A span lies in its text. -/
theorem SpanAt.bounds (h : SpanAt marker offset text start content) :
    offset ≤ start ∧ start + byteLength (fenced marker content) ≤ offset + byteLength text := by
  obtain ⟨-, -, before, rest, rfl, rfl⟩ := h
  simp only [byteLength_append]
  omega

/-- The spans behind the front of a text are those of what follows the front. -/
theorem spanAt_append_iff {front : List Char} (hstart : offset + byteLength front ≤ start) :
    SpanAt marker offset (front ++ text) start content ↔ SpanAt marker (offset + byteLength front) text start content := by
  constructor
  · rintro ⟨hne, hfree, before, rest, heq, rfl⟩
    rcases List.append_eq_append_iff.mp heq with ⟨gap, rfl, rfl⟩ | ⟨gap, rfl, hrest⟩
    · exact ⟨hne, hfree, gap, rest, rfl, by simp only [byteLength_append]; omega⟩
    · -- The span begins within the front, so it begins where the front ends.
      have hgap : gap = [] := by
        rw [← byteLength_eq_zero_iff]
        simp only [byteLength_append] at hstart
        omega
      subst hgap
      exact ⟨hne, hfree, [], rest, hrest.symm, by simp⟩
  · rintro ⟨hne, hfree, before, rest, rfl, rfl⟩
    exact ⟨hne, hfree, front ++ before, rest, by simp, by simp only [byteLength_append]; omega⟩

/-- A text without a span at its front has the spans of what follows its first character. -/
theorem spanAt_cons_iff {c : Char} (h : spanAtFront? marker (c :: text) = none) :
    SpanAt marker offset (c :: text) start content ↔ SpanAt marker (offset + c.utf8Size) text start content := by
  have hone : offset + byteLength [c] = offset + c.utf8Size := rfl
  constructor
  · intro hspan
    obtain ⟨hne, hfree, before, rest, heq, rfl⟩ := hspan
    cases before with
    -- A span that begins at the first character would be at the front.
    | nil =>
      rw [heq, List.nil_append, spanAtFront?_fenced rest hne hfree] at h
      contradiction
    | cons d before =>
      obtain ⟨rfl, rfl⟩ := List.cons.inj heq
      exact ⟨hne, hfree, before, rest, rfl, by simp only [byteLength_cons]; omega⟩
  · intro hspan
    show SpanAt marker offset ([c] ++ text) start content
    exact (spanAt_append_iff (hone ▸ hspan.bounds.1)).mpr hspan

/-- At the front of a text there is at most one span. -/
theorem SpanAt.eq_of_front {rest other : List Char} (hne : content ≠ []) (hfree : marker ∉ content)
    (h : SpanAt marker offset (fenced marker content ++ rest) offset other) : other = content := by
  obtain ⟨hneOther, hfreeOther, before, restOther, heq, hstart⟩ := h
  have hbefore : before = [] := by
    rw [← byteLength_eq_zero_iff]
    omega
  subst hbefore
  have hfront := spanAtFront?_fenced rest hne hfree
  rw [heq, List.nil_append, spanAtFront?_fenced restOther hneOther hfreeOther] at hfront
  simp only [Option.some.injEq, Prod.mk.injEq] at hfront
  exact hfront.1

theorem spanAt_fenced (offset : Nat) (hne : content ≠ []) (hfree : marker ∉ content) (rest : List Char) :
    SpanAt marker offset (fenced marker content ++ rest) offset content :=
  ⟨hne, hfree, [], rest, rfl, rfl⟩

end

/-! ## Scans -/

/-- What the matches of a text that begins at an offset have to be. -/
structure Scan (marker : Char) (offset : Nat) (text : List Char) (found : List Match) : Prop where
  /-- A match is that of a span, and takes the bytes of its content and its marker pairs. -/
  located : ∀ m ∈ found, SpanAt marker offset text m.start m.content.toList ∧
    m.stop = m.start + byteLength (fenced marker m.content.toList)
  /-- The matches stand in order, and each ends before the next one starts. -/
  ordered : found.Pairwise fun a b => a.start < b.start ∧ a.stop < b.stop ∧ a.stop ≤ b.start
  /-- From the end of a match, or of what is in front of the text, up to the next match, or the end of the text, no span
  starts. -/
  gaps : ∀ earlier later, found = earlier ++ later → ∀ start content,
    (earlier.getLast?.map (·.stop)).getD offset ≤ start →
      start < (later.head?.map (·.start)).getD (offset + byteLength text) → ¬SpanAt marker offset text start content

section

variable {marker : Char} {offset : Nat} {text : List Char} {found : List Match}

/-- No span starts in a gap exactly if each span starts within a match. -/
theorem scan_iff :
    Scan marker offset text found ↔
      (∀ m ∈ found, SpanAt marker offset text m.start m.content.toList ∧
        m.stop = m.start + byteLength (fenced marker m.content.toList)) ∧
      (found.Pairwise fun a b => a.start < b.start ∧ a.stop < b.stop ∧ a.stop ≤ b.start) ∧
      ∀ start content, SpanAt marker offset text start content → ∃ m ∈ found, m.start ≤ start ∧ start < m.stop := by
  constructor
  · rintro ⟨hlocated, hordered, hgaps⟩
    refine ⟨hlocated, hordered, fun start content hspan => ?_⟩
    by_contra hnone
    -- Otherwise the matches that end no later than the span starts are in front of a gap that it starts in.
    refine hgaps _ _ (List.takeWhile_append_dropWhile (p := fun m => decide (m.stop ≤ start))).symm start content ?_ ?_ hspan
    · cases hlast : (found.takeWhile fun m => decide (m.stop ≤ start)).getLast? with
      | none => exact hspan.bounds.1
      | some last =>
        have hmem := List.mem_of_getLast? hlast
        simpa using List.mem_takeWhile_imp hmem
    · cases hnext : (found.dropWhile fun m => decide (m.stop ≤ start)).head? with
      | none =>
        have hbounds := hspan.bounds
        have hpos := byteLength_fenced_pos marker content
        simp only [Option.map_none, Option.getD_none]
        omega
      | some next =>
        have hmem := (List.dropWhile_suffix _).mem (List.mem_of_head? hnext)
        have hhead := List.head?_dropWhile_not (fun m : Match => decide (m.stop ≤ start)) found
        rw [hnext] at hhead
        simp only [decide_eq_false_iff_not] at hhead
        simp only [Option.map_some, Option.getD_some]
        have hstart : ¬next.start ≤ start := fun hle => hnone ⟨next, hmem, hle, by omega⟩
        omega
  · rintro ⟨hlocated, hordered, hcovered⟩
    refine ⟨hlocated, hordered, fun earlier later hfound start content hfrom hto hspan => ?_⟩
    obtain ⟨m, hm, hle, hlt⟩ := hcovered start content hspan
    subst hfound
    obtain ⟨hearlier, hlater, -⟩ := List.pairwise_append.mp hordered
    rcases List.mem_append.mp hm with hm | hm
    · -- A match in front of the gap ends no later than the last of them.
      rcases List.eq_nil_or_concat earlier with rfl | ⟨front, last, rfl⟩
      · contradiction
      · simp only [List.concat_eq_append, List.getLast?_append, List.getLast?_singleton, Option.some_or, Option.map_some,
          Option.getD_some] at hfrom
        rw [List.concat_eq_append, List.mem_append, List.mem_singleton] at hm
        rcases hm with hm | rfl
        · rw [List.concat_eq_append, List.pairwise_append] at hearlier
          have hbefore := hearlier.2.2 m hm last (List.mem_singleton_self last)
          omega
        · omega
    · cases later with
      | nil => contradiction
      | cons next later =>
        simp only [List.head?_cons, Option.map_some, Option.getD_some] at hto
        rcases List.mem_cons.mp hm with rfl | hm
        · omega
        · have hafter := (List.pairwise_cons.mp hlater).1 m hm
          omega

theorem scan_nil : Scan marker offset [] found ↔ found = [] := by
  have hspan : ∀ start content, ¬SpanAt marker offset [] start content := by
    intro start content h
    have hbounds := h.bounds
    have hpos := byteLength_fenced_pos marker content
    simp only [byteLength_nil] at hbounds
    omega
  rw [scan_iff]
  constructor
  · rintro ⟨hlocated, -, -⟩
    exact List.eq_nil_iff_forall_not_mem.mpr fun m hm => hspan _ _ (hlocated m hm).1
  · rintro rfl
    exact ⟨nofun, .nil, fun start content h => absurd h (hspan start content)⟩

theorem scan_cons {c : Char} (h : spanAtFront? marker (c :: text) = none) :
    Scan marker offset (c :: text) found ↔ Scan marker (offset + c.utf8Size) text found := by
  simp only [scan_iff, spanAt_cons_iff h]

/-- The first match is that of the span at the front, and the others are those of what follows it. -/
theorem scan_fenced {content rest : List Char} (hne : content ≠ []) (hfree : marker ∉ content) :
    Scan marker offset (fenced marker content ++ rest) found ↔
      ∃ later, found = ⟨offset, offset + byteLength (fenced marker content), String.ofList content⟩ :: later ∧
        Scan marker (offset + byteLength (fenced marker content)) rest later := by
  have hfront := spanAt_fenced offset hne hfree rest
  have hpos := byteLength_fenced_pos marker content
  simp only [scan_iff]
  constructor
  · rintro ⟨hlocated, hordered, hcovered⟩
    obtain ⟨first, hfirst, hle, hlt⟩ := hcovered offset content hfront
    cases found with
    | nil => contradiction
    | cons next later =>
      obtain ⟨hnext, hlater⟩ := List.pairwise_cons.mp hordered
      obtain ⟨hspan, hstop⟩ := hlocated next List.mem_cons_self
      -- The match that the span starts in is the first one, since no other starts in front of it.
      have hstart : next.start = offset := by
        have hbounds := hspan.bounds.1
        rcases List.mem_cons.mp hfirst with rfl | hmem
        · omega
        · have hafter := hnext first hmem
          omega
      -- So its content and its end are those of the span as well.
      rw [hstart] at hspan
      have hcontent := hspan.eq_of_front hne hfree
      obtain ⟨nextStart, nextStop, nextContent⟩ := next
      simp only at hstart hstop hcontent hnext
      subst hstart
      rw [hcontent] at hstop
      subst hstop
      refine ⟨later, by rw [← hcontent, String.ofList_toList], fun m hm => ?_, hlater, fun start other hother => ?_⟩
      · obtain ⟨hmSpan, hmStop⟩ := hlocated m (List.mem_cons_of_mem _ hm)
        exact ⟨(spanAt_append_iff (hnext m hm).2.2).mp hmSpan, hmStop⟩
      · have hbounds := hother.bounds.1
        -- A span further on starts in a match, which is not the first, since that one ends in front of it.
        obtain ⟨m, hm, hmStart, hmStop⟩ := hcovered start other ((spanAt_append_iff hbounds).mpr hother)
        rcases List.mem_cons.mp hm with rfl | hm
        · simp only at hmStop
          omega
        · exact ⟨m, hm, hmStart, hmStop⟩
  · rintro ⟨later, rfl, hlocated, hordered, hcovered⟩
    refine ⟨fun m hm => ?_, List.pairwise_cons.mpr ⟨fun m hm => ?_, hordered⟩, fun start other hother => ?_⟩
    · rcases List.mem_cons.mp hm with rfl | hm
      · simpa using hfront
      · obtain ⟨hspan, hstop⟩ := hlocated m hm
        exact ⟨(spanAt_append_iff hspan.bounds.1).mpr hspan, hstop⟩
    · obtain ⟨hspan, hstop⟩ := hlocated m hm
      have hbounds := hspan.bounds.1
      have hmPos := byteLength_fenced_pos marker m.content.toList
      simp only
      omega
    · -- A span that starts in the first one is covered by it, and any other is a span of what follows.
      by_cases hwithin : start < offset + byteLength (fenced marker content)
      · exact ⟨_, List.mem_cons_self, hother.bounds.1, hwithin⟩
      · obtain ⟨m, hm, hmStart, hmStop⟩ := hcovered start other ((spanAt_append_iff (by omega)).mp hother)
        exact ⟨m, List.mem_cons_of_mem _ hm, hmStart, hmStop⟩

theorem matchesFrom_consPlain (marker c : Char) (offset : Nat) (segments : List Segment) :
    matchesFrom marker offset (consPlain c segments) = matchesFrom marker (offset + c.utf8Size) segments := by
  unfold consPlain
  split
  · simp only [matchesFrom, byteLength_cons, Nat.add_assoc]
  · simp only [matchesFrom, byteLength_cons, byteLength_nil, Nat.add_zero]

/-- The matches among the segments of a text are the ones that a scan has to find. -/
theorem scan_iff_eq_matchesFrom :
    Scan marker offset text found ↔ found = matchesFrom marker offset (segments marker text) := by
  induction text using segments_induction marker generalizing offset found with
  | nil => rw [scan_nil, segments_nil, matchesFrom]
  | span content rest hne hfree ih =>
    have hstop : offset + 4 * marker.utf8Size + byteLength content = offset + byteLength (fenced marker content) := by
      rw [byteLength_fenced]
      omega
    rw [scan_fenced hne hfree, segments_fenced rest hne hfree, matchesFrom, hstop]
    simp only [ih, exists_eq_right]
  | plain c text hfront ih => rw [scan_cons hfront, ih, segments_cons hfront, matchesFrom_consPlain]

end

/-! ## Pieces between the matches -/

/-- The text between two offsets, unless one of them is no boundary or they are the wrong way round. -/
def slice? (text : List Char) (start stop : Nat) : Option (List Char) :=
  match charCount? text start, charCount? text stop with
  | some first, some last => if first ≤ last then some ((text.take last).drop first) else none
  | _, _ => none

theorem slice?_append (front piece back : List Char) :
    slice? (front ++ (piece ++ back)) (byteLength front) (byteLength front + byteLength piece) = some piece := by
  have hstop : charCount? (front ++ (piece ++ back)) (byteLength front + byteLength piece) =
      some (front.length + piece.length) := by
    rw [← byteLength_append, ← List.append_assoc, charCount?_append, List.length_append]
  simp only [slice?, charCount?_append, hstop, if_pos (Nat.le_add_right ..)]
  rw [← List.append_assoc, List.take_append_of_le_length (by simp), List.take_of_length_le (by simp), List.drop_left]

/-- The text node of a slice; an empty slice has none. -/
def flushText (position : Option Position) (gap : List Char) : List Node :=
  if gap = [] then [] else [.text (String.ofList gap) position]

/-- The nodes that a loop over matches makes of a text from a cursor on. It flushes the slice from the cursor to the match,
adds the content of the match, and goes on where the match ends; at last it flushes the slice up to the end. It gives
nothing if a slice begins or ends inside a character. -/
def cutAt? (position : Option Position) (text : List Char) (cursor : Nat) : List Match → Option (List Node)
  | [] => (slice? text cursor (byteLength text)).map (flushText position)
  | m :: found => do
    let gap ← slice? text cursor m.start
    let later ← cutAt? position text m.stop found
    return flushText position gap ++ Node.span m.content position :: later

/-- The loop at a cursor behind `front`, when the next match begins behind the further text `gap`. -/
theorem cutAt?_matchesFrom {marker : Char} (position : Option Position) (front gap : List Char)
    {segments : List Segment} (hchain : segments.IsChain Segment.Apart)
    (hproper : ∀ segment ∈ segments, segment.Proper marker)
    (hgap : gap = [] ∨ ∀ next ∈ segments.head?, next.isMarked = true) :
    cutAt? position (front ++ (gap ++ segments.flatMap (Segment.written marker))) (byteLength front)
        (matchesFrom marker (byteLength front + byteLength gap) segments) =
      some (flushText position gap ++ segments.map (Segment.toNode position)) := by
  induction segments generalizing front gap with
  | nil =>
    have hslice := slice?_append front gap []
    simp only [List.append_nil] at hslice
    simp [matchesFrom, cutAt?, hslice]
  | cons segment segments ih =>
    obtain ⟨hnext, htail⟩ := List.isChain_cons.mp hchain
    have hrest : ∀ segment ∈ segments, segment.Proper marker := fun _ hmem => hproper _ (List.mem_cons_of_mem _ hmem)
    cases segment with
    | plain text =>
      -- A plain segment has no match. It is what the loop has still to flush, so there was nothing before it.
      obtain rfl : gap = [] := hgap.resolve_right (by simp [Segment.isMarked])
      have hne : text ≠ [] := (hproper (.plain text) List.mem_cons_self).1
      have hmarked : ∀ next ∈ segments.head?, next.isMarked = true :=
        fun next hmem => (hnext next hmem).resolve_left (by simp [Segment.isMarked])
      simpa [matchesFrom, Segment.written, flushText, hne, Segment.toNode] using ih front text htail hrest (.inr hmarked)
    | marked content =>
      -- The loop flushes the gap, and goes on behind the markers that close the content.
      have hslice := slice?_append front gap ((fenced marker content) ++ segments.flatMap (Segment.written marker))
      have hlater := ih (front ++ (gap ++ fenced marker content)) [] htail hrest (.inl rfl)
      have hstop : byteLength (front ++ (gap ++ fenced marker content)) =
          byteLength front + byteLength gap + 4 * marker.utf8Size + byteLength content := by
        simp only [byteLength_append, byteLength_fenced]
        omega
      rw [hstop] at hlater
      simp only [List.append_assoc, List.nil_append, byteLength_nil, Nat.add_zero, flushText, ↓reduceIte] at hlater
      simp only [List.flatMap_cons, Segment.written, matchesFrom, cutAt?, hslice, hlater, Option.bind_eq_bind,
        Option.bind_some, Option.pure_def, List.map_cons, Segment.toNode]

namespace Delimiter

/-- **The nodes of a text are the slices between its matches and inside them.** A text with a span is cut as a loop over its
matches cuts it, which flushes what is between them, and no slice begins or ends inside a character. The content of each
match is the slice between its marker pairs. -/
theorem splitIfNeeded_eq_cutAt? (delimiter : Delimiter) (text : String) (position : Option Position) :
    (delimiter.splitIfNeeded text position =
      if delimiter.isMatch text then cutAt? position text.toList 0 (delimiter.findMatches text) else none) ∧
      ∀ m ∈ delimiter.findMatches text,
        slice? text.toList (m.start + 2 * delimiter.marker.utf8Size) (m.stop - 2 * delimiter.marker.utf8Size) =
          some m.content.toList := by
  constructor
  · -- The loop begins at the front of the text, with nothing to flush.
    have hcut := cutAt?_matchesFrom position [] [] (isChain_segments delimiter.marker text.toList)
      (fun _ hmem => proper_of_mem_segments hmem) (.inl rfl)
    simp only [List.nil_append, flatMap_written_segments, byteLength_nil, Nat.add_zero, flushText, ↓reduceIte] at hcut
    rw [splitIfNeeded, findMatches, hcut]
  · intro m hm
    -- A match is that of a span, whose content stands behind one pair of markers and in front of another one.
    have hscan := scan_iff_eq_matchesFrom.mpr (rfl : delimiter.findMatches text = _)
    obtain ⟨⟨-, -, before, rest, heq, hstart⟩, hstop⟩ := hscan.located m hm
    have hslice := slice?_append (before ++ [delimiter.marker, delimiter.marker]) m.content.toList
      ([delimiter.marker, delimiter.marker] ++ rest)
    have hopen : m.start + 2 * delimiter.marker.utf8Size =
        byteLength (before ++ [delimiter.marker, delimiter.marker]) := by
      simp only [byteLength_append, byteLength_cons, byteLength_nil]
      omega
    have hclose : m.stop - 2 * delimiter.marker.utf8Size =
        byteLength (before ++ [delimiter.marker, delimiter.marker]) + byteLength m.content.toList := by
      rw [hstop, byteLength_fenced, ← hopen]
      omega
    rw [hopen, hclose, heq]
    simpa [fenced] using hslice

/-- A text has a span if it can be written with a fenced content in it. -/
theorem hasSpan_iff_exists_eq (delimiter : Delimiter) (text : String) :
    HasSpan delimiter.marker text.toList ↔ ∃ before content after : String,
      text = before ++ delimiter.fence ++ content ++ delimiter.fence ++ after ∧ content ≠ "" ∧
        delimiter.marker ∉ content.toList := by
  have hfence : delimiter.fence.toList = [delimiter.marker, delimiter.marker] := by simp [fence]
  constructor
  · rintro ⟨content, hne, hfree, before, after, heq⟩
    refine ⟨String.ofList before, String.ofList content, String.ofList after, ?_, by simpa using hne, by simpa using hfree⟩
    apply String.toList_injective
    simp [hfence, ← heq, fenced]
  · rintro ⟨before, content, after, rfl, hne, hfree⟩
    refine ⟨content.toList, by simpa using hne, hfree, before.toList, after.toList, ?_⟩
    simp [hfence, fenced]

/-- **The matches that are found are the ones to be found**, and there is no other such list, whatever the text and the
marker. There is a match, and something to split, exactly if the text can be written with a content between marker pairs
in it, where the content is not empty and holds no marker. -/
theorem scan_iff_eq_findMatches (delimiter : Delimiter) (text : String) :
    (∀ found, Scan delimiter.marker 0 text.toList found ↔ found = delimiter.findMatches text) ∧
      (delimiter.isMatch text = true ↔ ∃ before content after : String,
        text = before ++ delimiter.fence ++ content ++ delimiter.fence ++ after ∧ content ≠ "" ∧
          delimiter.marker ∉ content.toList) ∧
      ∀ position, (delimiter.splitIfNeeded text position).isSome = true ↔ ∃ before content after : String,
        text = before ++ delimiter.fence ++ content ++ delimiter.fence ++ after ∧ content ≠ "" ∧
          delimiter.marker ∉ content.toList := by
  have hmatch := (delimiter.isMatch_iff text).trans (delimiter.hasSpan_iff_exists_eq text)
  refine ⟨fun found => scan_iff_eq_matchesFrom, hmatch, fun position => ?_⟩
  rw [splitIfNeeded_isSome]
  exact hmatch

end Delimiter

end Highlighter
