import Highlighter.Proofs.Gaps
import Highlighter.Proofs.Splitting

/-!
# Runs of markers

Which pieces of a text become highlights can be read off the lengths of its runs of markers. Main statement: every text
is written in exactly one way as runs of markers and the pieces between them, and its cut is what one pass over the runs
makes of it. A piece between two runs is a content if two markers are left of the run before it and the run after it has
two. A content takes these four, so the run after it has two less for the next piece.

In a run only the last two markers can open a span, for a content is not empty. So the other markers are a gap. Where too
few are left of a run, or the next run has too few, the run is a gap as a whole, and its piece with it.
-/

namespace Highlighter

/-! ## Texts as runs -/

/-- A run of markers, and the piece of text behind it. -/
@[ext] structure Run (marker : Char) where
  count : Nat
  piece : List Char
  count_pos : 0 < count
  piece_free : marker ∉ piece

namespace Run

variable {marker : Char}

/-- Between any two neighbouring runs stands a piece that is not empty. -/
def Apart (runs : List (Run marker)) : Prop := runs.IsChain fun run _ => run.piece ≠ []

/-- The text of a run and the piece behind it. -/
def written (run : Run marker) : List Char := List.replicate run.count marker ++ run.piece

/-- The markers left of a run. Two of them belong to the content in front of it, if there is one. -/
def left (afterContent : Bool) (run : Run marker) : Nat := if afterContent then run.count - 2 else run.count

end Run

/-- A text as a front piece, and runs of markers with the pieces behind them. Only the front and the last piece may be
empty. -/
@[ext] structure RunText (marker : Char) where
  front : List Char
  runs : List (Run marker)
  front_free : marker ∉ front
  runs_apart : Run.Apart runs

namespace RunText

variable {marker : Char}

/-- The text that runs and pieces make up. -/
def written (text : RunText marker) : List Char := text.front ++ text.runs.flatMap Run.written

end RunText

/-! ## The pass over the runs -/

/-- The segments with neighbouring plain ones put together, and empty ones left out. -/
def mergePlain : List Segment → List Segment
  | [] => []
  | .plain text :: segments => prependPlain text (mergePlain segments)
  | .marked content :: segments => .marked content :: mergePlain segments

/-- Reads off the runs which pieces are contents, and which markers stay. The piece behind a run is a content if it is not
the last, two markers are left of the run, and the next run has two. It takes the last two that are left, and the first
two of the next run. -/
def cutRuns {marker : Char} (afterContent : Bool) : List (Run marker) → List Segment
  | [] => []
  | [run] => [.plain (List.replicate (run.left afterContent) marker), .plain run.piece]
  | run :: next :: runs =>
    if 2 ≤ run.left afterContent ∧ 2 ≤ next.count then
      .plain (List.replicate (run.left afterContent - 2) marker) :: .marked run.piece :: cutRuns true (next :: runs)
    else
      .plain (List.replicate (run.left afterContent) marker) :: .plain run.piece :: cutRuns false (next :: runs)

namespace RunText

variable {marker : Char}

/-- The segments that the runs of a text say it has. -/
def cut (text : RunText marker) : List Segment := mergePlain (.plain text.front :: cutRuns false text.runs)

/-- The nodes that show these segments. The empty text has none, and is shown by an empty text. -/
def nodes (position : Option Position) (text : RunText marker) : List Node :=
  if text.cut = [] then [.text "" position] else text.cut.map (Segment.toNode position)

end RunText

/-! ## Every text is one of runs, in one way -/

theorem append_inj_of_head? {α : Type} {p : α → Bool} {xs ys xs' ys' : List α} (h : xs ++ ys = xs' ++ ys')
    (hall : ∀ a ∈ xs, p a = true) (hhead : ∀ a ∈ ys.head?, p a = false)
    (hall' : ∀ a ∈ xs', p a = true) (hhead' : ∀ a ∈ ys'.head?, p a = false) : xs = xs' ∧ ys = ys' := by
  have hfront : xs = xs' := by
    rw [← takeWhile_append_of_head? hall hhead, h, takeWhile_append_of_head? hall' hhead']
  subst hfront
  exact ⟨rfl, List.append_cancel_left h⟩

section

variable {marker : Char} {piece later piece' later' : List Char}

/-- A piece ends at the next marker. -/
theorem piece_inj (h : piece ++ later = piece' ++ later') (hfree : marker ∉ piece)
    (hlater : ∀ a ∈ later.head?, a = marker) (hfree' : marker ∉ piece') (hlater' : ∀ a ∈ later'.head?, a = marker) :
    piece = piece' ∧ later = later' := by
  have hall : ∀ {text : List Char}, marker ∉ text → ∀ a ∈ text, (a != marker) = true := by
    intro text hfree a ha
    rw [bne_iff_ne]
    rintro rfl
    exact hfree ha
  exact append_inj_of_head? h (hall hfree) (by simpa using hlater) (hall hfree') (by simpa using hlater')

/-- A run ends at the next character that is no marker. -/
theorem count_inj {n n' : Nat} (h : List.replicate n marker ++ later = List.replicate n' marker ++ later')
    (hlater : ∀ a ∈ later.head?, a ≠ marker) (hlater' : ∀ a ∈ later'.head?, a ≠ marker) :
    n = n' ∧ later = later' := by
  have hall : ∀ n, ∀ a ∈ List.replicate n marker, (a == marker) = true := by
    intro n a ha
    rw [beq_iff_eq]
    exact List.eq_of_mem_replicate ha
  obtain ⟨hcount, hrest⟩ :=
    append_inj_of_head? h (hall n) (by simpa using hlater) (hall n') (by simpa using hlater')
  exact ⟨by simpa using congrArg List.length hcount, hrest⟩

theorem head?_flatMap_written (runs : List (Run marker)) : ∀ a ∈ (runs.flatMap Run.written).head?, a = marker := by
  intro a ha
  cases runs with
  | nil => simp at ha
  | cons run runs =>
    obtain ⟨n, hn⟩ := Nat.exists_eq_succ_of_ne_zero run.count_pos.ne'
    simp only [List.flatMap_cons, Run.written, hn, List.replicate_succ, List.cons_append, List.head?_cons,
      Option.mem_def, Option.some.injEq] at ha
    exact ha.symm

/-- Behind a run stands no marker, for an empty piece is the last. -/
theorem head?_piece_append (hfree : marker ∉ piece) (hempty : piece = [] → later = []) :
    ∀ a ∈ (piece ++ later).head?, a ≠ marker := by
  rintro a ha rfl
  cases piece with
  | nil => simp [hempty rfl] at ha
  | cons c piece =>
    simp only [List.cons_append, List.head?_cons, Option.mem_def, Option.some.injEq] at ha
    exact hfree (ha ▸ List.mem_cons_self)

end

namespace Run

variable {marker : Char}

/-- At the front of runs nothing is taken from the first of them. -/
theorem flatMap_written_cons (run : Run marker) (runs : List (Run marker)) :
    (run :: runs).flatMap written =
      List.replicate (run.left false) marker ++ (run.piece ++ runs.flatMap written) := by
  rw [List.flatMap_cons, written, List.append_assoc]
  rfl

theorem Apart.tail {run : Run marker} {runs : List (Run marker)} (h : Apart (run :: runs)) : Apart runs :=
  (List.isChain_cons.mp h).2

/-- Behind an empty piece there are no more runs. -/
theorem Apart.flatMap_written_eq_nil {run : Run marker} {runs : List (Run marker)} (h : Apart (run :: runs))
    (hempty : run.piece = []) : runs.flatMap written = [] := by
  cases runs with
  | nil => rfl
  | cons next runs => exact absurd hempty (List.isChain_cons_cons.mp h).1

theorem flatMap_written_ne_nil (run : Run marker) (runs : List (Run marker)) : (run :: runs).flatMap written ≠ [] := by
  have hpos := run.count_pos
  simp only [List.flatMap_cons, written, ne_eq, List.append_eq_nil_iff, List.replicate_eq_nil_iff]
  omega

/-- Behind a run of one marker stands no marker. -/
theorem Apart.flatMap_written_ne_pair {run : Run marker} {runs : List (Run marker)} (h : Apart (run :: runs))
    (hcount : ¬2 ≤ run.count) (rest : List Char) : (run :: runs).flatMap written ≠ marker :: marker :: rest := by
  intro hpair
  have hone : run.count = 1 := by
    have hpos := run.count_pos
    omega
  simp only [List.flatMap_cons, written, hone, List.replicate_one, List.cons_append, List.nil_append, List.cons.injEq,
    true_and] at hpair
  exact head?_piece_append run.piece_free h.flatMap_written_eq_nil marker (by rw [hpair]; rfl) rfl

theorem flatMap_written_inj {runs others : List (Run marker)} (hruns : Apart runs) (hothers : Apart others)
    (h : runs.flatMap written = others.flatMap written) : runs = others := by
  induction runs generalizing others with
  | nil =>
    cases others with
    | nil => rfl
    | cons other others => exact absurd h.symm (flatMap_written_ne_nil other others)
  | cons run runs ih =>
    cases others with
    | nil => exact absurd h (flatMap_written_ne_nil run runs)
    | cons other others =>
      -- The markers in front are the same, then the pieces behind them, then the other runs.
      simp only [List.flatMap_cons, written, List.append_assoc] at h
      obtain ⟨hcount, h⟩ := count_inj h (head?_piece_append run.piece_free hruns.flatMap_written_eq_nil)
        (head?_piece_append other.piece_free hothers.flatMap_written_eq_nil)
      obtain ⟨hpiece, h⟩ := piece_inj h run.piece_free (head?_flatMap_written runs) other.piece_free
        (head?_flatMap_written others)
      rw [Run.ext hcount hpiece, ih hruns.tail hothers.tail h]

end Run

namespace RunText

variable {marker : Char}

theorem written_injective : Function.Injective (written : RunText marker → List Char) := by
  intro text other h
  obtain ⟨hfront, hruns⟩ := piece_inj h text.front_free (head?_flatMap_written text.runs) other.front_free
    (head?_flatMap_written other.runs)
  exact RunText.ext hfront (Run.flatMap_written_inj text.runs_apart other.runs_apart hruns)

/-- A character in front of a text makes the front or the first run longer, or is a new run. -/
theorem exists_written_cons (c : Char) (text : RunText marker) :
    ∃ longer : RunText marker, longer.written = c :: text.written := by
  obtain ⟨front, runs, hfree, hapart⟩ := text
  by_cases hc : c = marker
  · -- A marker begins a run of its own, makes the first run longer, or turns the front into the piece of a new run.
    subst hc
    match front, runs with
    | [], [] => exact ⟨⟨[], [⟨1, [], by omega, by simp⟩], by simp, .singleton _⟩, by simp [written, Run.written]⟩
    | [], run :: runs =>
      have hlonger : Run.Apart (⟨run.count + 1, run.piece, by omega, run.piece_free⟩ :: runs) :=
        List.isChain_cons.mpr (List.isChain_cons.mp hapart)
      exact ⟨⟨[], _, by simp, hlonger⟩, by simp [written, Run.written, List.replicate_succ]⟩
    | d :: front, runs =>
      have hmore : Run.Apart (⟨1, d :: front, by omega, hfree⟩ :: runs) :=
        List.isChain_cons.mpr ⟨fun _ _ => List.cons_ne_nil d front, hapart⟩
      exact ⟨⟨[], _, by simp, hmore⟩, by simp [written, Run.written]⟩
  · -- Any other character makes the front longer.
    exact ⟨⟨c :: front, runs, by simp [hfree, Ne.symm hc], hapart⟩, rfl⟩

theorem written_surjective : Function.Surjective (written : RunText marker → List Char) := by
  intro text
  induction text with
  | nil => exact ⟨⟨[], [], by simp, .nil⟩, rfl⟩
  | cons c text ih =>
    obtain ⟨shorter, rfl⟩ := ih
    exact shorter.exists_written_cons c

theorem written_bijective : Function.Bijective (written : RunText marker → List Char) :=
  ⟨written_injective, written_surjective⟩

end RunText

/-! ## The cut of runs -/

section

variable {marker : Char}

theorem fenced_append (content rest : List Char) :
    fenced marker content ++ rest = List.replicate 2 marker ++ (content ++ marker :: marker :: rest) := by
  simp [fenced, List.replicate_succ]

/-- At a run of markers only the last two can open a span. -/
theorem eq_two_of_spanAtFront? {n : Nat} {later content rest : List Char} (hlater : ∀ a ∈ later.head?, a ≠ marker)
    (h : spanAtFront? marker (List.replicate n marker ++ later) = some (content, rest)) :
    n = 2 ∧ marker ∉ content ∧ later = content ++ marker :: marker :: rest := by
  obtain ⟨hne, hfree, htext⟩ := eq_fenced_of_spanAtFront? h
  rw [fenced_append] at htext
  obtain ⟨hcount, hrest⟩ := count_inj htext hlater (head?_piece_append hfree fun hempty => absurd hempty hne)
  exact ⟨hcount, hfree, hrest⟩

theorem isGap_replicate_iff {n : Nat} {later : List Char} :
    IsGap marker (List.replicate n marker) later ↔
      ∀ k, 0 < k → k ≤ n → spanAtFront? marker (List.replicate k marker ++ later) = none := by
  constructor
  · intro h k hpos hle
    refine h (List.replicate k marker) ?_ (List.suffix_replicate_iff.mpr (by simpa using hle))
    rw [ne_eq, List.replicate_eq_nil_iff]
    omega
  · intro h tail hne htail
    obtain ⟨hle, hself⟩ := List.suffix_replicate_iff.mp htail
    rw [hself]
    exact h tail.length (List.length_pos_of_ne_nil hne) hle

/-- In front of a span, more markers of its run are a gap. -/
theorem isGap_replicate_fenced (n : Nat) {content rest : List Char} (hne : content ≠ []) (hfree : marker ∉ content) :
    IsGap marker (List.replicate n marker) (fenced marker content ++ rest) := by
  rw [isGap_replicate_iff]
  intro k hpos _
  rw [Option.eq_none_iff_forall_ne_some]
  rintro ⟨other, behind⟩ hfront
  -- Together with the marker pair of the span the run has more than two markers.
  rw [fenced_append, ← List.append_assoc, List.replicate_append_replicate] at hfront
  have hcount := (eq_two_of_spanAtFront? (head?_piece_append hfree fun hempty => absurd hempty hne) hfront).1
  omega

/-- A run of which fewer than two markers are left, or that comes before a run of fewer, opens no span. -/
theorem isGap_replicate_append {n : Nat} {piece later : List Char} (hfree : marker ∉ piece)
    (hempty : piece = [] → later = []) (hlater : ∀ a ∈ later.head?, a = marker)
    (hfew : 2 ≤ n → ∀ rest, later ≠ marker :: marker :: rest) :
    IsGap marker (List.replicate n marker ++ piece) later := by
  rw [isGap_append_iff, isGap_replicate_iff]
  refine ⟨fun k _ hle => ?_, isGap_of_not_mem hfree⟩
  rw [Option.eq_none_iff_forall_ne_some]
  rintro ⟨content, rest⟩ hfront
  obtain ⟨rfl, hcontent, htext⟩ := eq_two_of_spanAtFront? (head?_piece_append hfree hempty) hfront
  -- The content is the piece, so the run behind it begins with two markers.
  obtain ⟨-, hnext⟩ := piece_inj htext hfree hlater hcontent (by simp)
  exact hfew hle rest hnext

/-- What is left of a run is cut, with all that comes behind it, as the pass over the runs says. -/
theorem segments_left (afterContent : Bool) (run : Run marker) (runs : List (Run marker)) (h : Run.Apart (run :: runs)) :
    segments marker (List.replicate (run.left afterContent) marker ++ (run.piece ++ runs.flatMap Run.written)) =
      mergePlain (cutRuns afterContent (run :: runs)) := by
  -- By induction on the runs, for any first run and either state: a content changes what is left of the next run.
  induction runs generalizing run afterContent with
  | nil =>
    have hgap : IsGap marker (List.replicate (run.left afterContent) marker ++ run.piece) [] :=
      isGap_replicate_append run.piece_free (fun _ => rfl) (by simp) (by simp)
    rw [List.flatMap_nil, ← List.append_assoc, segments_append hgap, segments_nil, prependPlain_append, cutRuns,
      mergePlain, mergePlain, mergePlain]
  | cons next runs ih =>
    obtain ⟨hpiece, hnext⟩ : run.piece ≠ [] ∧ Run.Apart (next :: runs) := List.isChain_cons_cons.mp h
    rw [cutRuns]
    split
    case isTrue hspan =>
      obtain ⟨hleft, hcount⟩ := hspan
      -- The last two markers that are left open the span, and the first two of the next run close it.
      have hopen : List.replicate (run.left afterContent) marker =
          List.replicate (run.left afterContent - 2) marker ++ List.replicate 2 marker := by
        rw [List.replicate_append_replicate, Nat.sub_add_cancel hleft]
      have hclose : (next :: runs).flatMap Run.written =
          marker :: marker :: (List.replicate (next.left true) marker ++ (next.piece ++ runs.flatMap Run.written)) := by
        obtain ⟨n, hn⟩ := Nat.exists_eq_add_of_le' hcount
        simp [Run.written, Run.left, hn, List.replicate_succ]
      rw [hopen, hclose, List.append_assoc, ← fenced_append,
        segments_append (isGap_replicate_fenced _ hpiece run.piece_free), segments_fenced _ hpiece run.piece_free,
        ih true next hnext, mergePlain, mergePlain]
    case isFalse hspan =>
      -- The run and its piece are a gap, and the next run is still whole.
      have hfew : 2 ≤ run.left afterContent → ∀ rest,
          (next :: runs).flatMap Run.written ≠ marker :: marker :: rest :=
        fun hleft => hnext.flatMap_written_ne_pair fun hcount => hspan ⟨hleft, hcount⟩
      have hgap := isGap_replicate_append run.piece_free (fun hempty => absurd hempty hpiece)
        (head?_flatMap_written (next :: runs)) hfew
      rw [← List.append_assoc, segments_append hgap, Run.flatMap_written_cons, ih false next hnext,
        prependPlain_append, mergePlain, mergePlain]

end

namespace RunText

variable {marker : Char}

theorem segments_written (text : RunText marker) : segments marker text.written = text.cut := by
  obtain ⟨front, runs, hfree, hapart⟩ := text
  rw [written, segments_append (isGap_of_not_mem hfree), cut, mergePlain]
  cases runs with
  | nil => rw [List.flatMap_nil, segments_nil, cutRuns, mergePlain]
  | cons run runs => rw [Run.flatMap_written_cons, segments_left false run runs hapart]

end RunText

namespace Delimiter

variable (delimiter : Delimiter)

/-- **The cut of a text is read off its runs of markers.** Every text is one of runs in exactly one way, and it is cut as
the pass over these runs says. -/
theorem split_runs :
    (∀ text : String, ∃! runs : RunText delimiter.marker, runs.written = text.toList) ∧
      ∀ (runs : RunText delimiter.marker) (position : Option Position),
        delimiter.split (String.ofList runs.written) position = runs.nodes position := by
  refine ⟨fun text => ?_, fun runs position => ?_⟩
  · exact RunText.written_bijective.existsUnique text.toList
  · rw [RunText.nodes, ← RunText.segments_written]
    rcases delimiter.split_cases (String.ofList runs.written) position with ⟨hempty, hsplit⟩ | ⟨-, hsplit⟩
    · have hnone : runs.written = [] := by simpa using hempty
      rw [hsplit, hnone, segments_nil, if_pos rfl]
    · -- A cut has a node, so there is a segment.
      have hsome := delimiter.split_ne_nil (String.ofList runs.written) position
      rw [hsplit, ne_eq, List.map_eq_nil_iff, String.toList_ofList] at hsome
      rw [hsplit, String.toList_ofList, if_neg hsome]

/-- A run of four markers serves the spans on both sides of it, a run of three only the first one. -/
example :
    (⟨[], [⟨2, ['a'], by decide, by decide⟩, ⟨4, ['b'], by decide, by decide⟩, ⟨3, ['c'], by decide, by decide⟩,
      ⟨2, [], by decide, by decide⟩], by decide, by simp [Run.Apart]⟩ : RunText '!').cut =
      [.marked ['a'], .marked ['b'], .plain ['!', 'c', '!', '!']] := by
  decide

end Delimiter

end Highlighter
