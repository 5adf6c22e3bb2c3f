import Highlighter.Proofs.Document.Descendants
import Highlighter.Proofs.Spans
import Highlighter.Split

/-!
# Splitting a text

What the nodes are that a text is cut into. Main statement: the cut is in normal form, for every text, position
and marker. With the marker pairs put back around the highlights the nodes read as the text; every node is a text or
a highlight and carries the position; no two texts are neighbours, and none has a span; the highlights are
the spans that were found.
-/

namespace Highlighter

/-! ## Writing nodes back -/

namespace Node

/-- Whether a node is a highlighted span. -/
def isHighlight : Node → Bool
  | .highlight .. => true
  | _ => false

/-- The text that a text or a highlight was cut from. -/
def written (delimiter : Delimiter) : Node → String
  | .text value _ => value
  | .highlight value _ _ => delimiter.fence ++ value ++ delimiter.fence
  | .element .. => ""

end Node

namespace Segment

@[simp] theorem isText_toNode (position : Option Position) (segment : Segment) :
    (segment.toNode position).isText = !segment.isMarked := by
  cases segment <;> rfl

@[simp] theorem isHighlight_toNode (position : Option Position) (segment : Segment) :
    (segment.toNode position).isHighlight = segment.isMarked := by
  cases segment <;> rfl

@[simp] theorem position?_toNode (position : Option Position) (segment : Segment) :
    (segment.toNode position).position? = position := by
  cases segment <;> rfl

theorem toList_written_toNode (delimiter : Delimiter) (position : Option Position) (segment : Segment) :
    ((segment.toNode position).written delimiter).toList = segment.written delimiter.marker := by
  cases segment <;> simp [toNode, Node.span, Node.written, written, fenced, Delimiter.fence]

end Segment

/-- The nodes that show segments are written as the segments are. -/
theorem toList_join_written (delimiter : Delimiter) (position : Option Position) (segments : List Segment) :
    (String.join ((segments.map (Segment.toNode position)).map (·.written delimiter))).toList =
      segments.flatMap (Segment.written delimiter.marker) := by
  rw [String.toList_join, List.map_map, List.flatMap_map]
  simp only [Function.comp_apply, Segment.toList_written_toNode]

/-! ## Counting -/

/-- Where no two neighbours have a property, those that have it are at most one more than the others. -/
theorem countP_le_of_isChain {α : Type} {p : α → Bool} {items : List α}
    (h : items.IsChain fun a b => ¬(p a = true ∧ p b = true)) :
    items.countP p ≤ items.countP (fun a => !p a) + 1 := by
  -- Only a list that starts with the property can reach the bound.
  suffices hhead : items.countP p ≤ items.countP (fun a => !p a) + if items.head?.any p then 1 else 0 by
    refine hhead.trans ?_
    split <;> omega
  induction items with
  | nil => simp
  | cons a items ih =>
    obtain ⟨hnext, htail⟩ := List.isChain_cons.mp h
    have ih := ih htail
    by_cases ha : p a = true
    · -- Behind an item with the property none follows at once, so the others are short of the bound.
      have hnot : items.head?.any p = false := by
        cases items with
        | nil => rfl
        | cons b items => simpa [ha] using hnext b rfl
      simp only [hnot, Bool.false_eq_true, ↓reduceIte] at ih
      simp only [List.countP_cons, ha, List.head?_cons, Option.any_some, Bool.not_true,
        Bool.false_eq_true, ↓reduceIte]
      omega
    · simp only [List.countP_cons, ha, Bool.not_false, Bool.false_eq_true, ↓reduceIte]
      split at ih <;> omega

/-- The spans found among segments hold the contents of the marked ones, in order. -/
theorem map_content_matchesFrom (marker : Char) (offset : Nat) (position : Option Position)
    (segments : List Segment) :
    (matchesFrom marker offset segments).map (·.content) =
      (segments.map (Segment.toNode position)).filterMap Node.highlightValue? := by
  induction segments generalizing offset with
  | nil => rfl
  | cons segment segments ih =>
    cases segment with
    | plain text =>
      simp only [matchesFrom, List.map_cons, Segment.toNode, List.filterMap_cons, Node.highlightValue?, ih]
    | marked content =>
      simp only [matchesFrom, List.map_cons, Segment.toNode, Node.span, List.filterMap_cons,
        Node.highlightValue?, ih]

namespace Delimiter

/-! ## The nodes of a text -/

/-- The nodes of a text are those of its segments. Only the empty text, which has no segments, stays as it is. -/
theorem split_cases (delimiter : Delimiter) (text : String) (position : Option Position) :
    text = "" ∧ delimiter.split text position = [.text "" position] ∨
      text ≠ "" ∧ delimiter.split text position =
        (segments delimiter.marker text.toList).map (Segment.toNode position) := by
  by_cases hempty : text = ""
  · subst hempty
    left
    simp [split, splitIfNeeded, isMatch, segments_nil]
  · right
    refine ⟨hempty, ?_⟩
    unfold split splitIfNeeded
    split
    · -- A text with a match is cut, and one without is a single plain segment.
      rfl
    · next hmatch =>
      have hne : text.toList ≠ [] := by simpa [String.toList_eq_nil_iff] using hempty
      rw [Bool.not_eq_true] at hmatch
      rw [segments_of_not_any_isMarked hne hmatch]
      simp [Segment.toNode]

theorem split_ne_nil (delimiter : Delimiter) (text : String) (position : Option Position) :
    delimiter.split text position ≠ [] := by
  rcases delimiter.split_cases text position with ⟨-, hsplit⟩ | ⟨hne, hsplit⟩
  · simp [hsplit]
  · rw [hsplit]
    intro hnil
    -- Without segments there would be no text.
    have hlossless := flatMap_written_segments delimiter.marker text.toList
    rw [List.map_eq_nil_iff.mp hnil, List.flatMap_nil, eq_comm, String.toList_eq_nil_iff] at hlossless
    exact hne hlossless

theorem split_of_not_hasSpan {delimiter : Delimiter} {text : String} (position : Option Position)
    (h : ¬HasSpan delimiter.marker text.toList) :
    delimiter.split text position = [.text text position] := by
  rw [← delimiter.isMatch_iff] at h
  simp [split, splitIfNeeded, h]

/-- The normal form of a cut. -/
structure NormalCut (delimiter : Delimiter) (text : String) (position : Option Position)
    (nodes : List Node) : Prop where
  /-- With the marker pairs put back, the nodes read as the text. -/
  lossless : String.join (nodes.map (·.written delimiter)) = text
  /-- Each node is a text or a highlight, and carries the position. -/
  carried : ∀ node ∈ nodes,
    (node.isText = true ∨ node.isHighlight = true) ∧ node.position? = position
  /-- No two texts are neighbours. -/
  separated : nodes.IsChain fun a b => ¬(a.isText = true ∧ b.isText = true)
  /-- No text is empty, unless nothing was to be cut, and none has a span. -/
  texts : ∀ value own, .text value own ∈ nodes →
    (value = "" → text = "") ∧ ¬HasSpan delimiter.marker value.toList
  /-- The value of a highlight is not empty and holds no marker, and its one child repeats it. -/
  highlights : ∀ value children own, .highlight value children own ∈ nodes →
    value ≠ "" ∧ delimiter.marker ∉ value.toList ∧ children = [.text value none]
  /-- The highlights are the spans that were found, in order. -/
  contents : nodes.filterMap Node.highlightValue? = (delimiter.findMatches text).map (·.content)
  /-- There are as many highlights as spans. -/
  highlight_count : nodes.countP Node.isHighlight = (delimiter.findMatches text).length
  /-- There is at most one text more than spans. -/
  text_count : nodes.countP Node.isText ≤ (delimiter.findMatches text).length + 1

variable (delimiter : Delimiter) (text : String) (position : Option Position)

theorem join_written_split :
    String.join ((delimiter.split text position).map (·.written delimiter)) = text := by
  rcases delimiter.split_cases text position with ⟨rfl, hsplit⟩ | ⟨-, hsplit⟩
  · rw [hsplit]
    rfl
  · apply String.toList_injective
    rw [hsplit, toList_join_written]
    exact flatMap_written_segments ..

theorem carried_of_mem_split {node : Node} (h : node ∈ delimiter.split text position) :
    (node.isText = true ∨ node.isHighlight = true) ∧ node.position? = position := by
  rcases delimiter.split_cases text position with ⟨-, hsplit⟩ | ⟨-, hsplit⟩
  · obtain rfl : node = .text "" position := by simpa [hsplit] using h
    exact ⟨.inl rfl, rfl⟩
  · rw [hsplit] at h
    obtain ⟨segment, -, rfl⟩ := List.mem_map.mp h
    cases hmarked : segment.isMarked <;> simp [hmarked]

theorem isChain_split :
    (delimiter.split text position).IsChain fun a b => ¬(a.isText = true ∧ b.isText = true) := by
  rcases delimiter.split_cases text position with ⟨-, hsplit⟩ | ⟨-, hsplit⟩
  · simp [hsplit]
  · rw [hsplit, List.isChain_map]
    -- Neighbours in the cut that are texts would be plain segments side by side.
    refine (isChain_segments ..).imp fun a b hapart => ?_
    rintro ⟨ha, hb⟩
    rcases hapart with h | h
    · simp [h] at ha
    · simp [h] at hb

theorem text_of_mem_split {value : String} {own : Option Position}
    (h : .text value own ∈ delimiter.split text position) :
    (value = "" → text = "") ∧ ¬HasSpan delimiter.marker value.toList ∧
      value.toList <:+: text.toList := by
  rcases delimiter.split_cases text position with ⟨rfl, hsplit⟩ | ⟨-, hsplit⟩
  · obtain ⟨rfl, -⟩ : value = "" ∧ own = position := by simpa [hsplit] using h
    exact ⟨fun _ => rfl, not_hasSpan_nil _, List.infix_rfl⟩
  · rw [hsplit] at h
    obtain ⟨segment, hsegment, heq⟩ := List.mem_map.mp h
    match segment with
    -- Marked segments become highlights, so the text comes from a plain one.
    | .marked content => cases heq
    | .plain gap =>
      cases heq
      obtain ⟨hne, hspan⟩ := proper_of_mem_segments hsegment
      have hpiece := written_infix_of_mem_segments hsegment
      refine ⟨?_, by simpa using hspan, by simpa [Segment.written] using hpiece⟩
      intro hempty
      exact absurd (by simpa using congrArg String.toList hempty) hne

theorem highlight_of_mem_split {value : String} {children : List Node} {own : Option Position}
    (h : .highlight value children own ∈ delimiter.split text position) :
    value ≠ "" ∧ delimiter.marker ∉ value.toList ∧ children = [.text value none] ∧
      value.toList <:+: text.toList := by
  rcases delimiter.split_cases text position with ⟨-, hsplit⟩ | ⟨-, hsplit⟩
  · simp [hsplit] at h
  · rw [hsplit] at h
    obtain ⟨segment, hsegment, heq⟩ := List.mem_map.mp h
    match segment with
    -- Plain segments become texts, so the highlight comes from a marked one.
    | .plain gap => cases heq
    | .marked content =>
      cases heq
      obtain ⟨hne, hfree⟩ := proper_of_mem_segments hsegment
      have hpiece := written_infix_of_mem_segments hsegment
      -- The content is a piece of its span, and the span is a piece of the text.
      have hcontent : content <:+: fenced delimiter.marker content := by
        exact ⟨[delimiter.marker, delimiter.marker], [delimiter.marker, delimiter.marker], rfl⟩
      refine ⟨?_, by simpa using hfree, rfl, ?_⟩
      · intro hempty
        exact hne (by simpa using congrArg String.toList hempty)
      · simpa using hcontent.trans hpiece

theorem filterMap_highlightValue?_split :
    (delimiter.split text position).filterMap Node.highlightValue? =
      (delimiter.findMatches text).map (·.content) := by
  rw [findMatches, map_content_matchesFrom _ _ position]
  rcases delimiter.split_cases text position with ⟨rfl, hsplit⟩ | ⟨-, hsplit⟩
  · simp [hsplit, segments_nil, Node.highlightValue?]
  · rw [hsplit]

theorem countP_isHighlight_split :
    (delimiter.split text position).countP Node.isHighlight = (delimiter.findMatches text).length := by
  have hcontents := congrArg List.length (delimiter.filterMap_highlightValue?_split text position)
  rw [List.length_map, List.length_filterMap_eq_countP] at hcontents
  rw [← hcontents]
  refine List.countP_congr fun node _ => ?_
  cases node <;> simp [Node.isHighlight, Node.highlightValue?]

theorem countP_isText_split :
    (delimiter.split text position).countP Node.isText ≤ (delimiter.findMatches text).length + 1 := by
  refine (countP_le_of_isChain (delimiter.isChain_split text position)).trans ?_
  rw [← delimiter.countP_isHighlight_split text position]
  refine Nat.add_le_add_right (List.countP_mono_left fun node hmem hnot => ?_) 1
  rcases (delimiter.carried_of_mem_split text position hmem).1 with htext | hhighlight
  · simp [htext] at hnot
  · exact hhighlight

/-- **A cut is in normal form**, whatever the text, its position and the marker. -/
theorem split_normalCut : delimiter.NormalCut text position (delimiter.split text position) where
  lossless := delimiter.join_written_split text position
  carried _ hmem := delimiter.carried_of_mem_split text position hmem
  separated := delimiter.isChain_split text position
  texts value own hmem := by
    obtain ⟨hempty, hspan, -⟩ := delimiter.text_of_mem_split text position hmem
    exact ⟨hempty, hspan⟩
  highlights value children own hmem := by
    obtain ⟨hne, hfree, hchildren, -⟩ := delimiter.highlight_of_mem_split text position hmem
    exact ⟨hne, hfree, hchildren⟩
  contents := delimiter.filterMap_highlightValue?_split text position
  highlight_count := delimiter.countP_isHighlight_split text position
  text_count := delimiter.countP_isText_split text position

/-! ## The nodes below a cut -/

/-- Below the nodes of a text there are only the texts that repeat the values of its highlights. -/
theorem mem_forestNodes_split {node : Node} (h : node ∈ Node.forestNodes (delimiter.split text position)) :
    node ∈ delimiter.split text position ∨
      ∃ value, node = .text value none ∧
        .highlight value [.text value none] position ∈ delimiter.split text position := by
  obtain ⟨root, hroot, rfl | hbelow⟩ := Node.mem_forestNodes.mp h
  · exact .inl hroot
  · cases root with
    | text value own => simp at hbelow
    | highlight value children own =>
      obtain ⟨-, -, rfl, -⟩ := delimiter.highlight_of_mem_split text position hroot
      obtain ⟨-, rfl⟩ := delimiter.carried_of_mem_split text position hroot
      obtain rfl : node = .text value none := by simpa using hbelow
      exact .inr ⟨value, rfl, hroot⟩
    | element kind value attributes children own =>
      -- No cut makes an element.
      obtain ⟨hkind, -⟩ := delimiter.carried_of_mem_split text position hroot
      simp [Node.isText, Node.isHighlight] at hkind

/-- The texts that a text is cut into, those inside highlights too, are pieces of it without a span. -/
theorem piece_of_mem_forestTexts_split {value : String}
    (h : value ∈ Node.forestTexts (delimiter.split text position)) :
    ¬HasSpan delimiter.marker value.toList ∧ value.toList <:+: text.toList := by
  obtain ⟨node, hnode, hvalue⟩ := List.mem_filterMap.mp h
  rcases delimiter.mem_forestNodes_split text position hnode with hsplit | ⟨content, rfl, hsplit⟩
  · -- A text is a node of the cut itself or the child of one of its highlights.
    cases node with
    | text own ownPosition =>
      obtain rfl : own = value := by simpa [Node.textValue?] using hvalue
      exact (delimiter.text_of_mem_split text position hsplit).2
    | highlight own children ownPosition => simp [Node.textValue?] at hvalue
    | element kind own attributes children ownPosition => simp [Node.textValue?] at hvalue
  · obtain rfl : content = value := by simpa [Node.textValue?] using hvalue
    obtain ⟨-, hfree, -, hpiece⟩ := delimiter.highlight_of_mem_split text position hsplit
    exact ⟨not_hasSpan_of_not_mem hfree, hpiece⟩

end Delimiter

end Highlighter
