import Highlighter.Proofs.Builder.Forest

/-!
# Unbalanced events

An end may stand where no container is open, and containers may be open behind the last event. The first is ignored, and the
others are closed when the tree is finished. Main statement: events leave the same tree as their balanced repair, in which
the surplus ends are dropped and what is open at the end is closed. A surplus end can be dropped wherever it stands; the
builder is the same behind it, but for a warning.

The number of open containers is all that has to be known of the events so far.
-/

namespace Highlighter

/-! ## Repaired events -/

namespace Event

/-- The number of open containers behind an event, given the number before it. The root does not count. -/
def depthAfter (depth : Nat) : Event → Nat
  | .openTag _ => depth + 1
  | .closeTag => depth - 1
  | _ => depth

theorem depthAfter_of_standsAlone {event : Event} (h : event.standsAlone = true) (depth : Nat) :
    event.depthAfter depth = depth := by
  cases event <;> simp_all [standsAlone, depthAfter]

theorem eq_of_not_standsAlone {event : Event} (h : event.standsAlone = false) :
    (∃ tag, event = .openTag tag) ∨ event = .closeTag := by
  cases event <;> simp_all [standsAlone]

end Event

namespace Repair

/-- The number of containers that are open behind events, from the number before them. -/
def depthBehind (depth : Nat) : List (Event × ByteRange) → Nat
  | [] => depth
  | event :: events => depthBehind (event.1.depthAfter depth) events

/-- The number of containers that events leave open. -/
def openCount (events : List (Event × ByteRange)) : Nat := depthBehind 0 events

/-- The events without the ends at which no container is open, given the number of containers open before them. -/
def keptFrom (depth : Nat) : List (Event × ByteRange) → List (Event × ByteRange)
  | [] => []
  | event :: events =>
    if event.1 = .closeTag ∧ depth = 0 then keptFrom 0 events
    else event :: keptFrom (event.1.depthAfter depth) events

/-- An end for each of some ranges. -/
def ends (ranges : List ByteRange) : List (Event × ByteRange) := ranges.map (Event.closeTag, ·)

/-- The events without surplus ends, and with these ends behind them. -/
def repaired (events : List (Event × ByteRange)) (closings : List ByteRange) : List (Event × ByteRange) :=
  keptFrom 0 events ++ ends closings

theorem keptFrom_of_surplus {event : Event × ByteRange} {events : List (Event × ByteRange)}
    (h : event.1 = .closeTag) : keptFrom 0 (event :: events) = keptFrom 0 events := by
  rw [keptFrom, if_pos ⟨h, rfl⟩]

theorem keptFrom_of_not_surplus {depth : Nat} {event : Event × ByteRange} {events : List (Event × ByteRange)}
    (h : ¬(event.1 = .closeTag ∧ depth = 0)) :
    keptFrom depth (event :: events) = event :: keptFrom (event.1.depthAfter depth) events := by
  rw [keptFrom, if_neg h]

/-! ## Balance -/

/-- Events that close as many containers as are open: what is still to come of each is a forest, and an end. -/
def Closing : Nat → List (Event × ByteRange) → Prop
  | 0, events => ∃ items, Item.Spelling items events
  | depth + 1, events =>
    ∃ items content range others, Item.Spelling items content ∧
      events = content ++ (.closeTag, range) :: others ∧ Closing depth others

/-- What may stand in front of a forest may stand in front of what closes the open containers. -/
theorem Closing.behind {depth : Nat} {events : List (Event × ByteRange)} (h : Closing depth events)
    (front : List (Event × ByteRange))
    (hfront : ∀ items content, Item.Spelling items content → ∃ more, Item.Spelling more (front ++ content)) :
    Closing depth (front ++ events) := by
  cases depth with
  | zero =>
    obtain ⟨items, hitems⟩ := h
    exact hfront items events hitems
  | succ depth =>
    obtain ⟨items, content, range, others, hitems, rfl, hothers⟩ := h
    obtain ⟨more, hmore⟩ := hfront items content hitems
    exact ⟨more, front ++ content, range, others, hmore, (List.append_assoc ..).symm, hothers⟩

/-- A container that is opened is closed first. -/
theorem Closing.openTag {depth : Nat} {events : List (Event × ByteRange)} (h : Closing (depth + 1) events)
    (tag : Tag) (range : ByteRange) : Closing depth ((.openTag tag, range) :: events) := by
  obtain ⟨inner, content, closing, others, hinner, rfl, hothers⟩ := h
  have hall := hothers.behind ((.openTag tag, range) :: (content ++ [(.closeTag, closing)])) <| by
    intro items behind hbehind
    have hcontainer := Item.Spelling.container tag range closing hinner hbehind
    exact ⟨_, by simpa using hcontainer⟩
  simpa using hall

theorem Closing.standsAlone {depth : Nat} {events : List (Event × ByteRange)} (h : Closing depth events)
    {event : Event} (alone : event.standsAlone = true) (range : ByteRange) :
    Closing depth ((event, range) :: events) :=
  h.behind [(event, range)] fun _ _ hcontent => ⟨_, .single event alone range hcontent⟩

theorem closing_ends {depth : Nat} {closings : List ByteRange} (h : closings.length = depth) :
    Closing depth (ends closings) := by
  induction closings generalizing depth with
  | nil =>
    subst h
    exact ⟨[], .nil⟩
  | cons closing closings ih =>
    subst h
    exact ⟨[], [], closing, ends closings, .nil, rfl, ih rfl⟩

/-- Events that are repaired close the containers that were open before them. -/
theorem closing_keptFrom {depth : Nat} {events : List (Event × ByteRange)} {closings : List ByteRange}
    (h : closings.length = depthBehind depth events) : Closing depth (keptFrom depth events ++ ends closings) := by
  induction events generalizing depth with
  | nil => exact closing_ends h
  | cons event events ih =>
    obtain ⟨event, range⟩ := event
    have hothers := ih h
    by_cases hsurplus : event = .closeTag ∧ depth = 0
    · -- A surplus end is dropped, and leaves the depth at zero.
      obtain ⟨rfl, rfl⟩ := hsurplus
      rwa [keptFrom_of_surplus rfl]
    · -- Any other event is kept, and what follows it closes the depth behind it.
      rw [keptFrom_of_not_surplus hsurplus, List.cons_append]
      cases halone : event.standsAlone with
      | true =>
        rw [Event.depthAfter_of_standsAlone halone] at hothers ⊢
        exact hothers.standsAlone halone range
      | false =>
        rcases Event.eq_of_not_standsAlone halone with ⟨tag, rfl⟩ | rfl
        · exact hothers.openTag tag range
        · cases depth with
          | zero => exact absurd ⟨rfl, rfl⟩ hsurplus
          -- An end that is kept closes the innermost container, so it stands between nothing and the rest.
          | succ depth => exact ⟨[], [], range, _, .nil, rfl, hothers⟩

end Repair

/-! ## Builders that differ by a warning -/

namespace Builder

open Repair

/-- The builder with one more warning about an end. -/
def warn (builder : Builder) : Builder := { builder with records := .unbalancedEnd :: builder.records }

theorem feed_closeTag_of_outer {builder : Builder} (h : builder.outer = []) (range : ByteRange) :
    builder.feed .closeTag range = builder.warn := by
  simp only [feed, closeTag, h, warn]

/-- A warning makes no difference to what an event does. -/
theorem feed_warn (builder : Builder) (event : Event) (range : ByteRange) :
    builder.warn.feed event range = (builder.feed event range).warn := by
  cases hpart : event.part? (builder.index.position range.start range.stop) with
  | some part =>
    -- An event that gives a part changes the innermost container only, which the warning does not touch.
    have hwarn : event.part? (builder.warn.index.position range.start range.stop) = some part := hpart
    rw [feed_of_part? hpart, feed_of_part? hwarn]
    rfl
  | none =>
    -- The other events open, close or mark a container; the only one that warns itself is an end without a container.
    cases event <;> simp only [Event.part?, reduceCtorEq] at hpart
    case openTag tag => rfl
    case closeTag =>
      cases houter : builder.outer with
      | nil =>
        have hwarn : builder.warn.outer = [] := houter
        rw [feed_closeTag_of_outer houter, feed_closeTag_of_outer hwarn]
      | cons parent outer => simp only [feed, closeTag, warn, houter]
    case taskMarker checked =>
      rw [feed_taskMarker, feed_taskMarker, mark, mark]
      by_cases hitem : builder.top.kind = "listItem"
      · rw [if_pos hitem, if_pos (by exact hitem)]
        rfl
      · rw [if_neg hitem, if_neg (by exact hitem)]
        rfl

theorem feedAll_warn (builder : Builder) (events : List (Event × ByteRange)) :
    builder.warn.feedAll events = (builder.feedAll events).warn := by
  induction events generalizing builder with
  | nil => rfl
  | cons event events ih => rw [feedAll_cons, feedAll_cons, feed_warn, ih]

/-! ## The number of open containers -/

theorem length_markTask (checked : Bool) (stack : List OpenElement) :
    (markTask checked stack).length = stack.length := by
  induction stack with
  | nil => rfl
  | cons top outer ih =>
    rw [markTask]
    split
    · rfl
    · rw [List.length_cons, ih, List.length_cons]

theorem Step.length_outer {builder next : Builder} {position : Position} {event : Event}
    (h : builder.Step position event next) : next.outer.length = event.depthAfter builder.outer.length := by
  cases h with
  | opened tag => rfl
  | kept last => simp [last, Event.depthAfter]
  | closed parent outer around => simp [around, Event.depthAfter]
  | marked checked =>
    -- A mark changes a container in its place.
    rw [mark]
    split
    · rfl
    · exact length_markTask checked builder.outer
  | added event part given =>
    -- An event that gives a part opens and closes nothing.
    cases event <;> simp only [Event.part?, reduceCtorEq] at given
    all_goals rfl

theorem length_outer_feedAll (builder : Builder) (events : List (Event × ByteRange)) :
    (builder.feedAll events).outer.length = depthBehind builder.outer.length events := by
  induction events generalizing builder with
  | nil => rfl
  | cons event events ih =>
    rw [feedAll_cons, ih, (builder.step_feed event.1 event.2).length_outer, depthBehind]

/-! ## Repaired runs -/

/-- Without the surplus ends the same containers are open. -/
theorem stack_feedAll_keptFrom (builder : Builder) (events : List (Event × ByteRange)) :
    (builder.feedAll (keptFrom builder.outer.length events)).stack = (builder.feedAll events).stack := by
  induction events generalizing builder with
  | nil => rfl
  | cons event events ih =>
    by_cases hsurplus : event.1 = .closeTag ∧ builder.outer.length = 0
    · -- A surplus end is warned about, and a warning makes no difference to what is open.
      obtain ⟨hclose, hlength⟩ := hsurplus
      have hfeed := feed_closeTag_of_outer (List.length_eq_zero_iff.mp hlength) event.2
      have hothers := ih builder
      rw [hlength] at hothers ⊢
      rw [keptFrom_of_surplus hclose, feedAll_cons, hclose, hfeed, feedAll_warn]
      exact hothers
    · -- The invariant is that as many containers are open on both sides, so the next event is kept on both.
      have hothers := ih (builder.feed event.1 event.2)
      rw [(builder.step_feed event.1 event.2).length_outer] at hothers
      rw [keptFrom_of_not_surplus hsurplus, feedAll_cons, feedAll_cons, hothers]

/-- The tree depends on the open containers only. -/
theorem value_finish_of_stack {first second : Builder} (h : first.stack = second.stack) :
    first.finish.value = second.finish.value := by
  obtain ⟨htop, houter⟩ := List.cons.inj h
  rw [finish, finish, htop, houter]

/-- An end makes no difference to the tree if no other event follows. -/
theorem value_finish_closeTag (builder : Builder) (range : ByteRange) :
    (builder.feed .closeTag range).finish.value = builder.finish.value := by
  cases houter : builder.outer with
  | nil =>
    rw [feed_closeTag_of_outer houter]
    rfl
  | cons parent outer => simp only [feed, closeTag, houter, finish, closeAll]

theorem value_finish_ends (builder : Builder) (ranges : List ByteRange) :
    (builder.feedAll (ends ranges)).finish.value = builder.finish.value := by
  induction ranges generalizing builder with
  | nil => rfl
  | cons range ranges ih =>
    rw [ends, List.map_cons, feedAll_cons, ← ends, ih, value_finish_closeTag]

/-- Balanced events are not warned about. -/
theorem records_feedAll_spelling (builder : Builder) {items : List Item} {events : List (Event × ByteRange)}
    (h : Item.Spelling items events) : (builder.feedAll events).records = builder.records := by
  rw [feedAll_spelling builder h, feedAll_forestEvents, addParts_eq, records_markAll]

end Builder

open Repair

/-- **Unbalanced events are repaired in one way.** The tree of any events is that of their repair, in which surplus ends are
dropped and each container left open gets an end, with any range; the repair is balanced, and nothing is warned about in it.
Further ends leave the tree as it is, and a surplus end leaves nothing but a warning in every later state. -/
theorem treeOfEvents_repaired (source : String) (events : List (Event × ByteRange)) :
    (∀ closings : List ByteRange, closings.length = openCount events →
        (∃ items, Item.Spelling items (repaired events closings)) ∧
          treeOfEvents source (repaired events closings) = .silent (treeOfEvents source events).value) ∧
      (∀ ranges : List ByteRange,
        (treeOfEvents source (events ++ ends ranges)).value = (treeOfEvents source events).value) ∧
      (openCount events = 0 → ∀ (range : ByteRange) (later : List (Event × ByteRange)),
        let start := Builder.start (LineIndex.ofSource source)
        start.feedAll (events ++ (.closeTag, range) :: later) = (start.feedAll (events ++ later)).warn ∧
          (treeOfEvents source (events ++ (.closeTag, range) :: later)).value =
            (treeOfEvents source (events ++ later)).value) := by
  refine ⟨fun closings hclosings => ?_, fun ranges => ?_, fun hnone range later => ?_⟩
  · -- The repair is balanced, so nothing is warned about in it, and it leaves the same containers open.
    obtain ⟨items, hitems⟩ : Closing 0 (repaired events closings) := closing_keptFrom hclosings
    have hrecords := (Builder.start (LineIndex.ofSource source)).records_feedAll_spelling hitems
    have hvalue : (treeOfEvents source (repaired events closings)).value = (treeOfEvents source events).value := by
      rw [treeOfEvents, repaired, Builder.feedAll_append, Builder.value_finish_ends]
      exact Builder.value_finish_of_stack (Builder.stack_feedAll_keptFrom _ events)
    refine ⟨⟨items, hitems⟩, ?_⟩
    rw [← hvalue, treeOfEvents, Builder.finish, hrecords]
    rfl
  · -- Further ends close what would be closed at the end of the document.
    rw [treeOfEvents, Builder.feedAll_append, Builder.value_finish_ends]
    rfl
  · -- No container is open where the surplus end comes, so it only warns.
    have hlength := (Builder.start (LineIndex.ofSource source)).length_outer_feedAll events
    have houter : ((Builder.start (LineIndex.ofSource source)).feedAll events).outer = [] :=
      List.length_eq_zero_iff.mp (hlength.trans hnone)
    have hstate : (Builder.start (LineIndex.ofSource source)).feedAll (events ++ (.closeTag, range) :: later) =
        ((Builder.start (LineIndex.ofSource source)).feedAll (events ++ later)).warn := by
      rw [Builder.feedAll_append, Builder.feedAll_cons, Builder.feed_closeTag_of_outer houter,
        Builder.feedAll_warn, Builder.feedAll_append]
    refine ⟨hstate, ?_⟩
    rw [treeOfEvents, hstate]
    rfl

/-- Ends before and behind a list item, and an emphasis in an image that both stay open. -/
def strayEvents : List (Event × ByteRange) :=
  [(.closeTag, ⟨0, 0⟩), (.openTag .item, ⟨0, 6⟩), (.taskMarker true, ⟨0, 3⟩), (.closeTag, ⟨0, 6⟩), (.closeTag, ⟨6, 6⟩),
    (.openTag (.image "u" ""), ⟨6, 12⟩), (.openTag .emphasis, ⟨8, 11⟩), (.text "a", ⟨9, 10⟩)]

/-- Where the ends of the emphasis and of the image would stand. -/
def strayClosings : List ByteRange := [⟨8, 11⟩, ⟨6, 12⟩]

theorem treeOfEvents_repaired_strayEvents :
    strayClosings.length = openCount strayEvents ∧
      treeOfEvents "[x]\n\n\n![*a*](u)" (repaired strayEvents strayClosings) =
        .silent (treeOfEvents "[x]\n\n\n![*a*](u)" strayEvents).value ∧
      openCount (strayEvents.take 4) = 0 ∧
      (treeOfEvents "[x]\n\n\n![*a*](u)" strayEvents).value =
        (treeOfEvents "[x]\n\n\n![*a*](u)" (strayEvents.take 4 ++ strayEvents.drop 5)).value := by
  have hopen : strayClosings.length = openCount strayEvents := rfl
  have hnone : openCount (strayEvents.take 4) = 0 := rfl
  refine ⟨hopen, ?_, hnone, ?_⟩
  · exact ((treeOfEvents_repaired _ strayEvents).1 _ hopen).2
  · exact ((treeOfEvents_repaired _ (strayEvents.take 4)).2.2 hnone ⟨6, 6⟩ (strayEvents.drop 5)).2

end Highlighter
