import Highlighter.Proofs.Walk.Course

/-!
# Texts answered one after another

A replacement answers for each text, from the texts seen before it, which nodes take its place, or that it stays. It knows
nothing of the tree. Main statement: the walk that follows a replacement calls its visitor once for each text that has a
parent, in document order, and fills the tree with the answers to the sequence of these texts. At each call, the siblings
before the text are already filled, the text stands right behind them, and those behind it are as they were.
-/

namespace Highlighter

namespace Walk

/-- What takes the place of a text, from the texts seen before it. -/
abbrev Replacement := List Node → Node → Option (List Node)

namespace Replacement

variable (replacement : Replacement)

/-- The rule of a replacement. Its state are the texts seen so far. -/
def rule : Rule (List Node) := fun seen _ value position =>
  (seen ++ [.text value position], replacement seen (.text value position))

/-- What stands in the place of a text of a sequence that is answered from its start on. -/
def answer (texts : List Node) (number : Nat) : List Node :=
  match texts[number]? with
  | some text => (replacement (texts.take number) text).getD [text]
  | none => []

theorem answer_append (seen : List Node) (index : Nat) (value : String) (position : Option Position)
    (more : List Node) :
    replacement.answer (seen ++ .text value position :: more) seen.length =
      replacement.rule.nodesFor seen index value position := by
  simp [answer, Rule.nodesFor, rule]

theorem forward_visitor : replacement.rule.visitor.Forward := by
  intro seen before value position after
  obtain ⟨-, hsiblings, hresume⟩ := replacement.rule.visitor_append seen before after value position
  exact ⟨_, hsiblings, Nat.le_of_eq hresume.symm⟩

end Replacement

/-- The call at a place of a tree that is filled with answers: the siblings before the text are filled, the text stands right
behind them, and the answer to it is put in its place and skipped. -/
def callAt (answer : Nat → List Node) (place : Node.Place) : Call :=
  let filled := Node.fillAmong answer place.first place.before
  let inserted := answer (place.first + Node.textCount place.before)
  ⟨filled ++ place.text :: place.after, filled.length, filled ++ inserted ++ place.after,
    (filled ++ inserted).length⟩

/-- The course of a walk that follows a replacement, over siblings that stand behind others in a tree with these texts. -/
theorem Course.of_replacement {replacement : Replacement} {texts seen final : List Node}
    {front rest nodes : List Node} {made : List Call}
    (h : Course replacement.rule.visitor seen front rest made final nodes) (first : Nat) (before more : List Node)
    (htexts : texts = seen ++ Node.forestTextNodes rest ++ more)
    (hseen : seen.length = first + Node.textCount before)
    (hfront : front = Node.fillAmong (replacement.answer texts) first before) :
    final = seen ++ Node.forestTextNodes rest ∧
      nodes = Node.fillAmong (replacement.answer texts) first (before ++ rest) ∧
      made = (Node.placesAmong first before rest).map (callAt (replacement.answer texts)) := by
  induction h generalizing first before more with
  | ended seen front => simp [hfront, Node.placesAmong]
  | @visited seen next final front rest nodes value position calls inserted skipped resume answer resumed goesOn ih =>
    -- The visitor puts the answer in the place of the text, and skips nothing else.
    obtain ⟨hnext, hsiblings, hresume⟩ := replacement.rule.visitor_append seen front rest value position
    simp only [answer] at hnext hsiblings hresume
    subst hnext
    have hinserted : inserted = replacement.answer texts (first + Node.textCount before) := by
      rw [← hseen, htexts, Node.forestTextNodes_text, List.append_assoc, List.cons_append,
        replacement.answer_append seen front.length]
      exact List.append_cancel_left (List.append_cancel_right hsiblings)
    obtain rfl : skipped = 0 := by
      rw [hresume, ← List.append_cancel_right hsiblings] at resumed
      omega
    have hfilled : front ++ inserted =
        Node.fillAmong (replacement.answer texts) first (before ++ [.text value position]) := by
      rw [Node.fillAmong_append, ← hfront, hinserted]
      simp [Node.fillAmong]
    obtain ⟨hfinal, hnodes, hmade⟩ := ih first (before ++ [.text value position]) more
      (by simp [htexts, Replacement.rule]) (by simp [hseen, Replacement.rule, Nat.add_assoc])
      (by simpa using hfilled)
    refine ⟨?_, ?_, ?_⟩
    · simp [hfinal, Replacement.rule]
    · simp [hnodes]
    · simp [hmade, Node.placesAmong, callAt, hfront, hinserted]
  | @entered seen between final front rest children kept nodes node inner calls parent below goesOn ihbelow ihrest =>
    -- The texts below the node are answered before those behind it, so both walks follow the same answers.
    have hnode : Node.forestTextNodes [node] = Node.forestTextNodes children ++ Node.forestTextNodes [] :=
      Node.forestTextNodes_of_children? parent
    obtain ⟨hbetween, hkept, hinner⟩ := ihbelow (first + Node.textCount before) []
      (Node.forestTextNodes rest ++ more)
      (by simp [htexts, Node.forestTextNodes_of_children? parent]) (by simp [hseen]) (by simp)
    obtain ⟨hfinal, hnodes, hmade⟩ := ihrest first (before ++ [node]) more
      (by simp [htexts, hbetween, Node.forestTextNodes_of_children? parent])
      (by simp [hbetween, hseen, hnode, Node.textCount, Nat.add_assoc])
      (by simp [hfront, hkept, Node.fillAmong_append, Node.fillAmong_of_children? _ _ parent])
    refine ⟨?_, ?_, ?_⟩
    · simp [hfinal, hbetween, Node.forestTextNodes_of_children? parent]
    · simp [hnodes]
    · simp [hmade, hinner, Node.placesAmong_of_children? _ _ parent]

theorem node?_callAt (answer : Nat → List Node) (place : Node.Place) :
    (callAt answer place).node? = some place.text := by
  simp [callAt, Call.node?]

/-- **Each text is answered once and in place.** A walk that follows a replacement ends, and fills the tree with the answers
to its texts. It makes one call for each text that has a parent, in document order. -/
theorem texts_of_replacement (replacement : Replacement) (tree : Node) (spare : Nat) :
    let answer := replacement.answer tree.textNodes
    let calls := tree.places.map (callAt answer)
    let records := if tree.isText then [.childlessRoot] else []
    texts replacement.rule.visitor (tree.size + spare) [] tree =
        some ⟨(tree.textNodes, tree.fill answer), records⟩ ∧
      texts replacement.rule.visitor.recording (tree.size + spare) ([], []) tree =
        some ⟨((tree.textNodes, calls), tree.fill answer), records⟩ ∧
      calls.map Call.node? = tree.textNodes.map some := by
  intro answer calls records
  -- One call for each place, about the text of that place.
  have hnodes : calls.map Call.node? = tree.textNodes.map some := by
    rw [← Node.map_text_places, List.map_map, List.map_map]
    exact List.map_congr_left fun place _ => node?_callAt answer place
  cases hchildren : tree.children? with
  | none =>
    -- A text has no children, so nothing is walked and the tree is only warned about.
    obtain ⟨value, position, rfl⟩ := Node.eq_text_of_children? hchildren
    exact ⟨rfl, rfl, hnodes⟩
  | some children =>
    -- The walk of the children is a course, and a course that follows the replacement fills the tree.
    obtain ⟨final, made, nodes, hwalk, hcourse⟩ := exists_course_texts replacement.forward_visitor []
      hchildren (Nat.le_add_right tree.size spare)
    have htexts : tree.textNodes = [] ++ Node.forestTextNodes children ++ [] := by
      simp [Node.textNodes_of_children? hchildren]
    obtain ⟨hfinal, hkept, hmade⟩ := hcourse.of_replacement 0 [] [] htexts rfl (by simp)
    have hresult : texts replacement.rule.visitor.recording (tree.size + spare) ([], []) tree =
        some ⟨((tree.textNodes, calls), tree.fill answer), records⟩ := by
      rw [hwalk, hfinal, hkept, hmade, List.nil_append, List.nil_append,
        ← Node.textNodes_of_children? hchildren, Node.fill, Node.fillBelow_of_children? _ _ hchildren,
        ← Node.placesBelow_of_children? 0 hchildren]
      simp [records, Node.isText_of_children? hchildren, calls, Node.places, answer]
    exact ⟨texts_of_recording hresult, hresult, hnodes⟩

end Walk

end Highlighter
