import Highlighter.Proofs.Gaps
import Highlighter.Proofs.Splitting
import Mathlib.Data.Set.List

/-!
# Joining and splitting again

Texts and highlights that are written one after the other make a text, and the text can be split again. Main statement:
this gives the same nodes exactly if none of the texts has a span, where a text in front of a highlight is taken together
with the marker pair that comes next. So it is known which lists of nodes a text can be cut into.

Segment by segment, the condition is that each plain one is a gap in front of what follows it, for the scan then passes
over it as a whole. A marker pair is all of the following text that can matter to this.
-/

namespace Highlighter

/-! ## Segments -/

namespace Segment

/-- Different segments are shown by different nodes. -/
theorem toNode_injective (position : Option Position) : Function.Injective (toNode position) := by
  intro a b h
  cases a <;> cases b <;> simp_all [toNode, Node.span, String.ofList_inj]

/-- A segment is shown by a text exactly if it is plain. -/
theorem toNode_eq_text_iff {position own : Option Position} {segment : Segment} {value : String} :
    segment.toNode position = .text value own ↔ segment = .plain value.toList ∧ own = position := by
  cases segment with
  | plain text =>
    simp only [toNode, Node.text.injEq, plain.injEq, ← String.toList_inj, String.toList_ofList, eq_comm (a := own)]
  | marked content => simp [toNode, Node.span]

/-- Segments that could have been cut from a text, but for the spans in plain ones. -/
structure Joinable (marker : Char) (parts : List Segment) : Prop where
  /-- No plain segment is empty. -/
  plain : ∀ text, .plain text ∈ parts → text ≠ []
  /-- A content is not empty and holds no marker. -/
  marked : ∀ content, .marked content ∈ parts → content ≠ [] ∧ marker ∉ content
  /-- No two plain segments are neighbours. -/
  apart : parts.IsChain Apart

theorem Joinable.tail {marker : Char} {part : Segment} {parts : List Segment} (h : Joinable marker (part :: parts)) :
    Joinable marker parts where
  plain text hmem := h.plain text (List.mem_cons_of_mem _ hmem)
  marked content hmem := h.marked content (List.mem_cons_of_mem _ hmem)
  apart := (List.isChain_cons.mp h.apart).2

/-- What follows a plain segment is not plain. -/
theorem Joinable.isMarked_head? {marker : Char} {text : List Char} {parts : List Segment}
    (h : Joinable marker (.plain text :: parts)) : ∀ next ∈ parts.head?, next.isMarked = true := by
  intro next hnext
  rcases (List.isChain_cons.mp h.apart).1 next hnext with hself | hmarked
  · simp [isMarked] at hself
  · exact hmarked

end Segment

/-- Segments are cut again as they were exactly if each plain one is a gap in front of what follows it. -/
theorem segments_flatMap_written_eq_self_iff {marker : Char} {parts : List Segment}
    (h : Segment.Joinable marker parts) :
    segments marker (parts.flatMap (Segment.written marker)) = parts ↔
      ∀ gap later, .plain gap :: later <:+ parts → IsGap marker gap (later.flatMap (Segment.written marker)) := by
  induction parts with
  | nil => simp [segments_nil]
  | cons part parts ih =>
    have ih := ih h.tail
    rw [List.flatMap_cons]
    cases part with
    | marked content =>
      -- A content is cut off as it is, and no gap begins with it.
      obtain ⟨hne, hfree⟩ := h.marked content List.mem_cons_self
      simp only [Segment.written, segments_fenced _ hne hfree, List.cons.injEq, true_and, ih, List.suffix_cons_iff,
        reduceCtorEq, false_and, false_or]
    | plain text =>
      have hne := h.plain text List.mem_cons_self
      rw [Segment.written, segments_append_eq_cons_iff hne h.isMarked_head?, ih]
      simp only [List.suffix_cons_iff, List.cons.injEq, Segment.plain.injEq, or_imp, forall_and, and_imp,
        forall_eq_apply_imp_iff, forall_eq]

/-- Of what follows a plain segment one marker pair is enough to see that it is a gap. -/
theorem forall_isGap_iff {marker : Char} {parts : List Segment} (h : Segment.Joinable marker parts) :
    (∀ gap later, .plain gap :: later <:+ parts → IsGap marker gap (later.flatMap (Segment.written marker))) ↔
      (∀ gap content later, .plain gap :: .marked content :: later <:+ parts →
        ¬HasSpan marker (gap ++ [marker, marker])) ∧
      ∀ gap, [.plain gap] <:+ parts → ¬HasSpan marker gap := by
  have hmarked : ∀ gap content later, IsGap marker gap
      ((.marked content :: later).flatMap (Segment.written marker)) ↔ ¬HasSpan marker (gap ++ [marker, marker]) := by
    intro gap content later
    rw [List.flatMap_cons, Segment.written, fenced, List.cons_append, List.cons_append, isGap_pair_iff]
  constructor
  · intro hgaps
    exact ⟨fun gap content later hsuffix => (hmarked ..).mp (hgaps gap _ hsuffix),
      fun gap hsuffix => isGap_nil_right_iff.mp (hgaps gap [] hsuffix)⟩
  · rintro ⟨hfronts, hlast⟩ gap later hsuffix
    cases later with
    | nil => exact isGap_nil_right_iff.mpr (hlast gap hsuffix)
    | cons next later =>
      cases next with
      | marked content => exact (hmarked ..).mpr (hfronts gap content later hsuffix)
      | plain text =>
        -- Two plain segments are never neighbours.
        have happart := (List.isChain_cons_cons.mp (h.apart.suffix hsuffix)).1
        simp [Segment.Apart, Segment.isMarked] at happart

/-! ## Nodes -/

namespace Delimiter

/-- Nodes that could have been cut from a text, but for the spans in their texts. -/
structure Joinable (delimiter : Delimiter) (position : Option Position) (nodes : List Node) : Prop where
  /-- There is a node. -/
  ne_nil : nodes ≠ []
  /-- Each node carries the position. It is a text that is not empty, or the span of a content that is not empty and holds
  no marker. -/
  each : ∀ node ∈ nodes, (∃ value, value ≠ "" ∧ node = .text value position) ∨
    ∃ content, content ≠ "" ∧ delimiter.marker ∉ content.toList ∧ node = Node.span content position
  /-- No two texts are neighbours. -/
  apart : nodes.IsChain fun a b => ¬(a.isText = true ∧ b.isText = true)

/-- Nodes that can be told apart again when they are joined. -/
structure Unambiguous (delimiter : Delimiter) (nodes : List Node) : Prop where
  /-- A text in front of a highlight has no span together with the marker pair that comes next. -/
  fronts : ∀ value own next later, .text value own :: next :: later <:+ nodes → next.isHighlight = true →
    ¬HasSpan delimiter.marker (value ++ delimiter.fence).toList
  /-- A text at the end has no span. -/
  last : ∀ value own, [.text value own] <:+ nodes → ¬HasSpan delimiter.marker value.toList

/-- The text that nodes are written as, one after the other. -/
def join (delimiter : Delimiter) (nodes : List Node) : String := String.join (nodes.map (·.written delimiter))

variable {delimiter : Delimiter} {position : Option Position} {parts : List Segment}

/-- Joinable nodes show joinable segments. -/
theorem Joinable.exists_map_toNode {nodes : List Node} (h : delimiter.Joinable position nodes) :
    ∃ parts, nodes = parts.map (Segment.toNode position) ∧ Segment.Joinable delimiter.marker parts := by
  -- Each node shows a segment, so the list is the image of a list of segments.
  have hrange : nodes ∈ Set.range (List.map (Segment.toNode position)) := by
    rw [Set.range_list_map]
    intro node hnode
    rcases h.each node hnode with ⟨value, -, rfl⟩ | ⟨content, -, -, rfl⟩
    · exact ⟨.plain value.toList, by simp [Segment.toNode]⟩
    · exact ⟨.marked content.toList, by simp [Segment.toNode]⟩
  obtain ⟨parts, rfl⟩ := hrange
  -- What is said of a node is said of the segment that it shows.
  refine ⟨parts, rfl, fun text hmem => ?_, fun content hmem => ?_, ?_⟩
  · rcases h.each _ (List.mem_map_of_mem hmem) with ⟨value, hne, heq⟩ | ⟨content, -, -, heq⟩
    · obtain rfl : String.ofList text = value := by simpa [Segment.toNode] using heq
      simpa using hne
    · simp [Segment.toNode, Node.span] at heq
  · rcases h.each _ (List.mem_map_of_mem hmem) with ⟨value, -, heq⟩ | ⟨other, hne, hfree, heq⟩
    · simp [Segment.toNode, Node.span] at heq
    · obtain rfl : String.ofList content = other := by simpa [Segment.toNode, Node.span] using heq
      exact ⟨by simpa using hne, by simpa using hfree⟩
  · refine (List.isChain_map _).mp h.apart |>.imp fun a b hapart => ?_
    rw [Segment.isText_toNode, Segment.isText_toNode, Bool.not_eq_true', Bool.not_eq_true', not_and_or,
      Bool.not_eq_false, Bool.not_eq_false] at hapart
    exact hapart

theorem join_map_toNode_ne_empty (hne : parts ≠ []) (h : Segment.Joinable delimiter.marker parts) :
    delimiter.join (parts.map (Segment.toNode position)) ≠ "" := by
  rw [ne_eq, ← String.toList_eq_nil_iff, join, toList_join_written]
  obtain ⟨part, others, rfl⟩ := List.exists_cons_of_ne_nil hne
  rw [List.flatMap_cons]
  refine List.append_ne_nil_of_left_ne_nil ?_ _
  cases part with
  | plain text => exact h.plain text List.mem_cons_self
  | marked content => simp [Segment.written, fenced]

/-- The condition on nodes is the one on the segments that they show. -/
theorem unambiguous_map_toNode_iff :
    delimiter.Unambiguous (parts.map (Segment.toNode position)) ↔
      (∀ gap content later, .plain gap :: .marked content :: later <:+ parts →
        ¬HasSpan delimiter.marker (gap ++ [delimiter.marker, delimiter.marker])) ∧
      ∀ gap, [.plain gap] <:+ parts → ¬HasSpan delimiter.marker gap := by
  have hfence : ∀ text : List Char, (String.ofList text ++ delimiter.fence).toList =
      text ++ [delimiter.marker, delimiter.marker] := by
    intro text
    simp [fence]
  constructor
  · -- A suffix of the segments is one of the nodes that show them.
    rintro ⟨hfronts, hlast⟩
    refine ⟨fun gap content later hsuffix => ?_, fun gap hsuffix => ?_⟩
    · rw [← hfence]
      exact hfronts _ _ _ _ (hsuffix.map (Segment.toNode position)) rfl
    · rw [← String.toList_ofList (l := gap)]
      exact hlast _ _ (hsuffix.map (Segment.toNode position))
  · -- A suffix of the nodes shows a suffix of the segments, in which a text is a plain segment.
    rintro ⟨hfronts, hlast⟩
    refine ⟨fun value own next later hsuffix hnext => ?_, fun value own hsuffix => ?_⟩
    · obtain ⟨ends, hends, heq⟩ := List.suffix_map_iff.mp hsuffix
      obtain ⟨first, others, rfl, hfirst, hothers⟩ := List.map_eq_cons_iff.mp heq.symm
      obtain ⟨second, others, rfl, rfl, -⟩ := List.map_eq_cons_iff.mp hothers
      obtain ⟨rfl, -⟩ := Segment.toNode_eq_text_iff.mp hfirst
      rw [Segment.isHighlight_toNode] at hnext
      -- The node behind the text is a highlight, and so shows a content.
      cases second with
      | plain text => simp [Segment.isMarked] at hnext
      | marked content => simpa [fence] using hfronts _ content _ hends
    · obtain ⟨ends, hends, heq⟩ := List.suffix_map_iff.mp hsuffix
      obtain ⟨first, rfl, hfirst⟩ := List.map_eq_singleton_iff.mp heq.symm
      obtain ⟨rfl, -⟩ := Segment.toNode_eq_text_iff.mp hfirst
      exact hlast _ hends

/-- **Splitting undoes joining exactly on unambiguous nodes.** -/
theorem split_join_iff {nodes : List Node} (h : delimiter.Joinable position nodes) :
    delimiter.split (delimiter.join nodes) position = nodes ↔ delimiter.Unambiguous nodes := by
  obtain ⟨parts, rfl, hparts⟩ := h.exists_map_toNode
  have hne : parts ≠ [] := by simpa using h.ne_nil
  rcases delimiter.split_cases (delimiter.join (parts.map (Segment.toNode position))) position with
    ⟨hempty, -⟩ | ⟨-, hsplit⟩
  · exact absurd hempty (join_map_toNode_ne_empty hne hparts)
  · rw [hsplit, join, toList_join_written, (List.map_injective_iff.mpr (Segment.toNode_injective position)).eq_iff,
      segments_flatMap_written_eq_self_iff hparts, forall_isGap_iff hparts, unambiguous_map_toNode_iff]

end Delimiter

/-- Nodes that meet in runs of three and four markers, with an open marker pair at the end. -/
def closeNodes : List Node := [.text "a!" none, .span "b" none, .span "c" none, .text "!!d" none]

/-- A text that opens a span, which the next highlight would close. -/
def capturingNodes : List Node := [.text "a!!b" none, .span "c" none]

theorem split_join_closeNodes :
    Delimiter.standard.Joinable none closeNodes ∧
      Delimiter.standard.split (Delimiter.standard.join closeNodes) none = closeNodes ∧
      Delimiter.standard.Joinable none capturingNodes ∧
      Delimiter.standard.split (Delimiter.standard.join capturingNodes) none ≠ capturingNodes := by
  have hclose : Delimiter.standard.Joinable none closeNodes := by
    refine ⟨by simp [closeNodes], ?_, by simp [closeNodes, Node.span, Node.isText]⟩
    simp [closeNodes, Node.span, Delimiter.standard]
  have hcapturing : Delimiter.standard.Joinable none capturingNodes := by
    refine ⟨by simp [capturingNodes], ?_, by simp [capturingNodes, Node.span, Node.isText]⟩
    simp [capturingNodes, Node.span, Delimiter.standard]
  refine ⟨hclose, (Delimiter.split_join_iff hclose).mpr ⟨?_, ?_⟩, hcapturing, ?_⟩
  · intro value own next later hsuffix hnext
    -- The only text in front of a highlight; with a marker pair behind it there is still no span in it.
    obtain ⟨⟨rfl, -⟩, -⟩ : (value = "a!" ∧ own = none) ∧ _ := by
      simpa [closeNodes, List.suffix_cons_iff, Node.span] using hsuffix
    decide +kernel
  · intro value own hsuffix
    -- The only text at the end.
    obtain ⟨rfl, -⟩ : value = "!!d" ∧ own = none := by
      simpa [closeNodes, List.suffix_cons_iff, Node.span] using hsuffix
    decide +kernel
  · rw [ne_eq, Delimiter.split_join_iff hcapturing]
    -- The text in front of the first highlight ends with what closes a span.
    rintro ⟨hfronts, -⟩
    exact hfronts _ _ _ _ List.suffix_rfl rfl (by decide +kernel)

end Highlighter
