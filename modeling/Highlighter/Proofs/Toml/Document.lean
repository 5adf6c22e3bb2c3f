import Highlighter.Proofs.Toml.Quoted
import Highlighter.Toml.Document

/-!
# Documents are read back

A document whose lines give strings to keys, each key on one line. Main statement: it is read as the table of these keys
with their strings, in the order of the lines.

A line is read up to its end, and its statement adds its key behind those of the lines before it.
-/

namespace Highlighter.Toml

/-! ## Keys -/

/-- A key that needs no quotes. -/
def IsBareKey (key : String) : Prop := key ≠ "" ∧ ∀ c ∈ key.toList, isKeyChar c = true

/-- The characters that begin anything other than a key without quotes. -/
theorem isKeyChar_eq_false : ∀ c ∈ ['[', '"', '\'', '#', ' ', '\t', '\n', '\r', '\ufeff'], isKeyChar c = false := by
  simp [isKeyChar]

theorem IsBareKey.exists_cons {key : String} (h : IsBareKey key) :
    ∃ c rest, key.toList = c :: rest ∧ ∀ d ∈ ['[', '"', '\'', '#', ' ', '\t', '\n', '\r', '\ufeff'], c ≠ d := by
  obtain ⟨c, rest, hcons⟩ := List.exists_cons_of_ne_nil fun hnil => h.1 (String.toList_eq_nil_iff.mp hnil)
  refine ⟨c, rest, hcons, ?_⟩
  rintro d hd rfl
  have hkey := h.2 c (by simp [hcons])
  rw [isKeyChar_eq_false c hd] at hkey
  contradiction

theorem key?_bare {key : String} (h : IsBareKey key) {c : Char} (hc : isKeyChar c = false) (rest : List Char) :
    key? (key.toList ++ c :: rest) = some (key, c :: rest) := by
  -- The key ends at the first character that cannot be part of one.
  have htake : (key.toList ++ c :: rest).takeWhile isKeyChar = key.toList := by
    rw [List.takeWhile_append_of_pos h.2, List.takeWhile_cons_of_neg (by simp [hc]), List.append_nil]
  have hdrop : (key.toList ++ c :: rest).dropWhile isKeyChar = c :: rest := by
    rw [List.dropWhile_append_of_pos h.2, List.dropWhile_cons_of_neg (by simp [hc])]
  -- It begins with no quote, so it is read as a bare key.
  obtain ⟨first, more, hcons, hfirst⟩ := h.exists_cons
  have hdouble := hfirst '"' (by decide)
  have hsingle := hfirst '\'' (by decide)
  have hkey : String.ofList (first :: more) = key := by rw [← hcons, String.ofList_toList]
  rw [hcons] at htake hdrop ⊢
  rw [List.cons_append] at htake hdrop ⊢
  rw [key?]
  · simp [htake, hdrop, hkey]
  · simpa using hdouble
  · simpa using hsingle

theorem dottedKey?_bare {key : String} (h : IsBareKey key) (rest : List Char) :
    dottedKey? (key.toList ++ ' ' :: '=' :: rest) = some (([], key), '=' :: rest) := by
  have hblank : (' ' :: '=' :: rest).dropWhile isBlank = '=' :: rest := rfl
  rw [dottedKey?, key?_bare h (by decide)]
  simp only [hblank]
  rfl

/-! ## Values -/

theorem exists_quoteChars (text : List Char) :
    ∃ mark inside, quoteChars text = mark :: inside ∧ (mark = '"' ∨ mark = '\'') := by
  unfold quoteChars inThree
  dsimp only
  repeat' split
  all_goals exact ⟨_, _, rfl, by simp⟩

theorem value?_quoteChars (depth : Nat) (text : String) (rest : List Char) :
    value? depth (quoteChars text.toList ++ '\n' :: rest) = some (.string text, '\n' :: rest) := by
  have hread := string?_quoteChars text.toList rest
  obtain ⟨mark, inside, heq, hmark⟩ := exists_quoteChars text.toList
  rw [heq, List.cons_append] at hread ⊢
  rcases hmark with rfl | rfl
  · rw [value?]
    simp [hread]
  · rw [value?]
    simp [hread]

/-! ## Lines -/

/-- A line that gives a string to a key. -/
def lineChars (key text : String) : List Char := key.toList ++ ' ' :: '=' :: ' ' :: quoteChars text.toList ++ ['\n']

theorem assignment?_lineChars {key : String} (h : IsBareKey key) (depth : Nat) (text : String) (rest : List Char) :
    assignment? depth (lineChars key text ++ rest) = some (([], key, .string text), '\n' :: rest) := by
  -- Blanks are passed over on both sides of the equals sign, and the value begins with a quote.
  obtain ⟨mark, inside, heq, hmark⟩ := exists_quoteChars text.toList
  have hblank : (' ' :: (quoteChars text.toList ++ '\n' :: rest)).dropWhile isBlank =
      quoteChars text.toList ++ '\n' :: rest := by
    rw [heq]
    rcases hmark with rfl | rfl <;> rfl
  have hline : lineChars key text ++ rest =
      key.toList ++ ' ' :: '=' :: ' ' :: (quoteChars text.toList ++ '\n' :: rest) := by
    simp [lineChars]
  have hequals : ∀ chars, ('=' :: chars).dropWhile isBlank = '=' :: chars := fun _ => rfl
  rw [hline, assignment?, dottedKey?_bare h]
  simp only [hequals, hblank]
  rw [dif_pos (by simp; omega), value?_quoteChars]
  rfl

/-- A line is the first of the statements, and the others are those of the lines below. -/
theorem statements?_lineChars {key : String} (h : IsBareKey key) (text : String) (rest : List Char) :
    statements? (lineChars key text ++ rest) =
      (statements? rest).map (.assignment [] key (.string text) :: ·) := by
  have hread := assignment?_lineChars h maxDepth text rest
  have hlength : rest.length < (lineChars key text ++ rest).length := by
    simp [lineChars]
    omega
  -- The line begins with its key, so it is neither space nor a comment, and not the head of a table.
  obtain ⟨c, more, hcons, hc⟩ := h.exists_cons
  obtain ⟨tail, htail⟩ : ∃ tail, lineChars key text ++ rest = c :: tail := ⟨_, by rw [lineChars, hcons]; rfl⟩
  rw [htail] at hread hlength ⊢
  have hskip : skipSpace? (c :: tail) = some (c :: tail) := by
    have hblank : isBlank c = false := by simp [isBlank, hc ' ' (by decide), hc '\t' (by decide)]
    rw [skipSpace?]
    · simp [hblank]
    · simpa using hc '\n' (by decide)
    · intro more heq
      exact absurd heq (hc '\r' (by decide))
    · simpa using hc '#' (by decide)
  have hstatement : statement? (c :: tail) = some (.assignment [] key (.string text), '\n' :: rest) := by
    have hbracket := hc '[' (by decide)
    rw [statement?]
    · rw [hread]
      rfl
    · simp [hbracket]
    · simp [hbracket]
  have hline : restOfLine? ('\n' :: rest) = some rest := rfl
  -- Nothing is passed over in front of the line, and behind it only its end.
  rw [statements?]
  simp only [hskip, hstatement, hline, Option.bind_eq_bind, Option.bind_some, dif_pos hlength]
  rw [Option.map_eq_bind]
  rfl

theorem statements?_lines {entries : List (String × String)} (h : ∀ entry ∈ entries, IsBareKey entry.1) :
    statements? (entries.flatMap fun entry => lineChars entry.1 entry.2) =
      some (entries.map fun entry => .assignment [] entry.1 (.string entry.2)) := by
  induction entries with
  | nil => simp [statements?, skipSpace?]
  | cons entry entries ih =>
    obtain ⟨hkey, hkeys⟩ := List.forall_mem_cons.mp h
    rw [List.flatMap_cons, statements?_lineChars hkey, ih hkeys, Option.map_some, List.map_cons]

/-! ## Tables -/

namespace Drafts

theorem change_of_not_mem {key : String} {drafts : Drafts} (h : key ∉ drafts.map Prod.fst)
    (f : Option Draft → Option Draft) :
    drafts.change key f = (f none).map fun draft => drafts ++ [(key, draft)] := by
  induction drafts with
  | nil => rfl
  | cons entry drafts ih =>
    obtain ⟨other, draft⟩ := entry
    obtain ⟨hne, hrest⟩ := List.ne_and_not_mem_of_not_mem_cons h
    rw [change, if_neg hne.symm, ih hrest, Option.map_map]
    rfl

theorem close_map_value (table : Table) : close (table.map fun entry => (entry.1, .value entry.2)) = table := by
  induction table with
  | nil => rfl
  | cons entry table ih => simp only [List.map_cons, close, closeDraft, ih]

end Drafts

/-- New keys come behind those that have a value already. -/
theorem foldlM_take_assignments (drafts : Drafts) (table : Table)
    (h : (drafts.map Prod.fst ++ table.map Prod.fst).Nodup) :
    (table.map fun entry => Statement.assignment [] entry.1 entry.2).foldlM Progress.take ⟨drafts, []⟩ =
      some ⟨drafts ++ table.map fun entry => (entry.1, .value entry.2), []⟩ := by
  induction table generalizing drafts with
  | nil => simp
  | cons entry table ih =>
    -- The key of the entry is new, so it gets a draft of its own behind the others.
    have hnew : entry.1 ∉ drafts.map Prod.fst := by
      intro hmem
      exact (List.nodup_append.mp h).2.2 _ hmem _ List.mem_cons_self rfl
    have hstep : Progress.take ⟨drafts, []⟩ (.assignment [] entry.1 entry.2) =
        some ⟨drafts ++ [(entry.1, .value entry.2)], []⟩ := by
      simp [Progress.take, Drafts.within, Drafts.assign, Drafts.change_of_not_mem hnew]
    rw [List.map_cons, List.foldlM_cons, hstep, Option.bind_eq_bind, Option.bind_some, ih _ (by simpa using h)]
    simp

/-- **A document of lines is read back**: each key stands for the string of its line. -/
theorem document?_lines {entries : List (String × String)} (hkeys : ∀ entry ∈ entries, IsBareKey entry.1)
    (hdistinct : (entries.map Prod.fst).Nodup) :
    document? (String.ofList (entries.flatMap fun entry => lineChars entry.1 entry.2)) =
      some (entries.map fun entry => (entry.1, .string entry.2)) := by
  have hmark : ∀ more, entries.flatMap (fun entry => lineChars entry.1 entry.2) ≠ '\ufeff' :: more := by
    intro more heq
    -- The document begins with a key, so with no mark of the byte order.
    cases entries with
    | nil => simp at heq
    | cons entry entries =>
      obtain ⟨c, rest, hcons, hc⟩ := (hkeys entry List.mem_cons_self).exists_cons
      rw [List.flatMap_cons, lineChars, hcons] at heq
      exact hc '\ufeff' (by decide) (List.cons.inj heq).1
  have htable := foldlM_take_assignments [] (entries.map fun entry => (entry.1, .string entry.2))
    (by simpa [Function.comp_def] using hdistinct)
  have hclose := Drafts.close_map_value (entries.map fun entry => (entry.1, .string entry.2))
  simp only [List.map_map, Function.comp_def, List.nil_append] at htable hclose
  simp only [document?, String.toList_ofList, statements?_lines hkeys, Option.bind_eq_bind, Option.bind_some, htable,
    hclose]

end Highlighter.Toml
