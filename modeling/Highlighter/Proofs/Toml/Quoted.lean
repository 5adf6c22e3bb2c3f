import Highlighter.Toml.Quoted

/-!
# Quoted strings are read back

A string is written in one of five forms, by the characters that it has. Main statement: from each of them it is read as
it was.

Between single quotes the string stands as it is. Between double quotes a character stands as itself or is escaped, and
the forms without escapes are those in which nothing has to be. So there are four readers to go through, two for
strings on one line and two for strings over lines. In the latter a quote may stand as itself. The readers look ahead
for three of them, and find them at the end only, since a third quote in a row is escaped or else the form is not taken.
-/

namespace Highlighter.Toml

/-! ## Characters -/

theorem eq_newline_or_isStringChar {c : Char} (h : isControl c = false) : c = '\n' ∨ isStringChar c = true := by
  by_cases hline : c = '\n'
  · exact .inl hline
  · right
    have hrange : ¬(c.toNat < 32 ∨ c.toNat = 127) := by simpa [isControl, hline] using h
    have hprintable : 32 ≤ c.toNat ∧ c.toNat ≠ 127 := by omega
    simp [isStringChar, hprintable]

theorem ne_return {c : Char} (h : isControl c = false) : c ≠ '\r' := by
  rintro rfl
  exact absurd h (by decide)

theorem toNat_lt_of_isControl {c : Char} (h : isControl c = true) : c.toNat < 128 := by
  have hrange : c ≠ '\n' ∧ (c.toNat < 32 ∨ c.toNat = 127) := by simpa [isControl] using h
  omega

/-! ## Escapes -/

theorem number?_fourDigits :
    ∀ n < 128, (fourDigits (Char.ofNat n)).length = 4 ∧ number? 16 (fourDigits (Char.ofNat n)) = some n := by
  decide

theorem codePoint?_fourDigits {c : Char} (h : c.toNat < 128) (rest : List Char) :
    codePoint? 4 (fourDigits c ++ rest) = some (c, rest) := by
  obtain ⟨hlength, hnumber⟩ := number?_fourDigits c.toNat h
  rw [Char.ofNat_toNat] at hlength hnumber
  have hvalid : c.toNat.isValidChar := c.valid
  simp [codePoint?, List.take_left' hlength, List.drop_left' hlength, hlength, hnumber, charOfCode?, hvalid,
    Char.ofNat_toNat]

/-- An escape begins with a letter, so the backslash in front of it ends no line, and it is read as the character. -/
theorem exists_escapeChar {c : Char} (h : c.toNat < 128) :
    ∃ letter tail, escapeChar c = '\\' :: letter :: tail ∧
      (∀ rest, continuation? (letter :: (tail ++ rest)) = none) ∧
      ∀ rest, escape? (letter :: (tail ++ rest)) = some (c, rest) := by
  unfold escapeChar
  split
  case h_8 =>
    have hletter : escapedBy? 'u' = none := rfl
    have hlength : codeLength? 'u' = some 4 := rfl
    refine ⟨'u', fourDigits c, rfl, fun _ => rfl, fun rest => ?_⟩
    simp only [escape?, hletter, hlength, Option.bind_some, codePoint?_fourDigits h]
  all_goals exact ⟨_, [], rfl, fun _ => rfl, fun _ => rfl⟩

theorem basicString?_escapeChar {c : Char} (h : c.toNat < 128) (rest : List Char) :
    basicString? (escapeChar c ++ rest) = (basicString? rest).map fun (value, rest) => (c :: value, rest) := by
  obtain ⟨letter, tail, heq, -, hescape⟩ := exists_escapeChar h
  rw [heq, List.cons_append, List.cons_append, basicString?, hescape]

theorem basicLines?_escapeChar {c : Char} (h : c.toNat < 128) (rest : List Char) :
    basicLines? (escapeChar c ++ rest) = (basicLines? rest).map fun (value, rest) => (c :: value, rest) := by
  obtain ⟨letter, tail, heq, hcontinuation, hescape⟩ := exists_escapeChar h
  rw [heq, List.cons_append, List.cons_append, basicLines?, hcontinuation, hescape]

theorem exists_tail_escapeChar (c : Char) : ∃ tail, escapeChar c = '\\' :: tail := by
  unfold escapeChar
  split <;> exact ⟨_, rfl⟩

/-! ## Strings on one line -/

theorem basicString?_plain {c : Char} (hquote : c ≠ '"') (hbackslash : c ≠ '\\') (h : isStringChar c = true)
    (rest : List Char) :
    basicString? (c :: rest) = (basicString? rest).map fun (value, rest) => (c :: value, rest) := by
  rw [basicString?]
  · rw [if_pos h]
  · simp [hquote]
  · simp [hbackslash]

/-- A string with all its quotes, backslashes and control characters escaped is read as it was. -/
theorem basicString?_escapeChars (text rest : List Char) :
    basicString? (escapeChars false 0 0 text ++ '"' :: rest) = some (text, rest) := by
  induction text with
  | nil => rw [escapeChars, List.nil_append, basicString?]
  | cons c text ih =>
    -- An escaped character is read as the character, and the others follow.
    have hstep : ∀ {c : Char}, c.toNat < 128 →
        basicString? (escapeChar c ++ escapeChars false 0 0 text ++ '"' :: rest) = some (c :: text, rest) := by
      intro c hc
      rw [List.append_assoc, basicString?_escapeChar hc, ih]
      rfl
    -- Three kinds of characters are written: a quote, one that has to be escaped, and one that stands as itself.
    rw [escapeChars]
    split
    case isTrue hquote =>
      subst hquote
      rw [if_neg (Nat.not_lt_zero 0)]
      exact hstep (by decide)
    case isFalse hquote =>
      split
      case isTrue hspecial =>
        apply hstep
        rcases hspecial with rfl | hcontrol | ⟨rfl, -⟩
        · decide
        · exact toNat_lt_of_isControl hcontrol
        · decide
      case isFalse hplain =>
        have hall : c ≠ '\\' ∧ isControl c = false ∧ c ≠ '\n' := by simpa using hplain
        obtain ⟨hbackslash, hcontrol, hline⟩ := hall
        have hchar := (eq_newline_or_isStringChar hcontrol).resolve_left hline
        rw [List.cons_append, basicString?_plain hquote hbackslash hchar, ih]
        rfl

theorem literalString?_plain {text : List Char} (hplain : ∀ c ∈ text, isControl c = false) (hline : '\n' ∉ text)
    (hquote : '\'' ∉ text) (rest : List Char) : literalString? (text ++ '\'' :: rest) = some (text, rest) := by
  induction text with
  | nil => rfl
  | cons c text ih =>
    -- The character is no apostrophe and may stand in a string, so it is taken as it is.
    obtain ⟨hc, htext⟩ := List.forall_mem_cons.mp hplain
    obtain ⟨hcline, hline⟩ := List.ne_and_not_mem_of_not_mem_cons hline
    obtain ⟨hcquote, hquote⟩ := List.ne_and_not_mem_of_not_mem_cons hquote
    have hchar := (eq_newline_or_isStringChar hc).resolve_left (Ne.symm hcline)
    rw [List.cons_append, literalString?]
    · rw [if_pos hchar, ih htext hline hquote]
      rfl
    · exact fun h => hcquote h.symm

/-! ## Runs of quotes -/

/-- A text in which, behind so many quotes, no run of quotes gets as long as a bound. -/
def RunsBelow (quote : Char) (bound : Nat) : Nat → List Char → Prop
  | _, [] => True
  | run, c :: text =>
    if c = quote then run + 1 < bound ∧ RunsBelow quote bound (run + 1) text else RunsBelow quote bound 0 text

/-- What was counted before a text is the run in front of it, and the longest run there was. -/
theorem runsBelow_of_foldl_lt {quote : Char} {bound : Nat} {count : Nat × Nat → Char → Nat × Nat}
    (hcount : ∀ run longest d,
      count (run, longest) d = if d = quote then (run + 1, max longest (run + 1)) else (0, longest))
    (text : List Char) (run longest : Nat) :
    longest ≤ (text.foldl count (run, longest)).2 ∧
      ((text.foldl count (run, longest)).2 < bound → RunsBelow quote bound run text) := by
  induction text generalizing run longest with
  | nil => exact ⟨Nat.le_refl _, fun _ => trivial⟩
  | cons c text ih =>
    rw [List.foldl_cons, hcount]
    -- The induction carries the run in front of the text, which a quote makes longer and any other character ends.
    by_cases hc : c = quote
    · obtain ⟨hmax, hruns⟩ := ih (run + 1) (max longest (run + 1))
      simp only [hc, ↓reduceIte, RunsBelow]
      exact ⟨by omega, fun h => ⟨by omega, hruns h⟩⟩
    · simpa only [hc, ↓reduceIte, RunsBelow] using ih 0 longest

theorem runsBelow_of_longestRun_lt {quote : Char} {bound : Nat} {text : List Char}
    (h : longestRun quote text < bound) : RunsBelow quote bound 0 text := by
  refine (runsBelow_of_foldl_lt ?_ text 0 0).2 h
  exact fun run longest d => rfl

/-- A text without special characters and long runs of quotes needs no escapes. -/
theorem escapeChars_of_runsBelow {lines : Bool} {plainQuotes run : Nat} {text : List Char}
    (hruns : RunsBelow '"' (plainQuotes + 1) run text) (hplain : ∀ c ∈ text, isControl c = false)
    (hbackslash : '\\' ∉ text) (hline : '\n' ∈ text → lines = true) :
    escapeChars lines plainQuotes run text = text := by
  induction text generalizing run with
  | nil => rfl
  | cons c text ih =>
    obtain ⟨hc, htext⟩ := List.forall_mem_cons.mp hplain
    obtain ⟨hcbackslash, hbackslash⟩ := List.ne_and_not_mem_of_not_mem_cons hbackslash
    have hlines : '\n' ∈ text → lines = true := fun h => hline (List.mem_cons_of_mem _ h)
    have hcline : c = '\n' → lines = true := fun h => hline (h ▸ List.mem_cons_self)
    rw [RunsBelow] at hruns
    rw [escapeChars]
    -- A quote stands as itself where the run in front of it is short.
    by_cases hquote : c = '"'
    · rw [if_pos hquote] at hruns
      have hrun : run < plainQuotes := by omega
      rw [if_pos hquote, if_pos hrun, ih hruns.2 htext hbackslash hlines]
    · -- Any other character is none of those that are escaped.
      rw [if_neg hquote] at hruns
      have hspecial : ¬(c = '\\' ∨ isControl c = true ∨ c = '\n' ∧ (!lines) = true) := by
        rintro (rfl | hcontrol | ⟨heq, hnot⟩)
        · exact hcbackslash rfl
        · simp [hc] at hcontrol
        · simp [hcline heq] at hnot
      rw [if_neg hquote, if_neg hspecial, ih hruns htext hbackslash hlines]

/-! ## Strings over lines -/

/-- Where a quote that stands as itself cannot follow, the writer goes on with another character. -/
theorem exists_head_escapeChars (lines : Bool) {plainQuotes run : Nat} (c : Char) (text : List Char)
    (h : c ≠ '"' ∨ plainQuotes ≤ run) :
    ∃ head tail, escapeChars lines plainQuotes run (c :: text) = head :: tail ∧ head ≠ '"' := by
  -- An escape begins with a backslash, and any other character is no quote.
  obtain ⟨escaped, hescaped⟩ := exists_tail_escapeChar c
  rw [escapeChars, hescaped]
  split
  case isTrue hquote =>
    have hrun : ¬run < plainQuotes := Nat.not_lt.mpr (h.resolve_left fun hne => hne hquote)
    rw [if_neg hrun]
    exact ⟨'\\', _, rfl, by decide⟩
  case isFalse hquote =>
    split
    · exact ⟨'\\', _, rfl, by decide⟩
    · exact ⟨c, _, rfl, hquote⟩

theorem basicLines?_plain {c : Char} (hquote : c ≠ '"') (hbackslash : c ≠ '\\') (h : isControl c = false)
    (rest : List Char) :
    basicLines? (c :: rest) = (basicLines? rest).map fun (value, rest) => (c :: value, rest) := by
  have hreturn := ne_return h
  have hchar : c = '\n' ∨ isStringChar c = true := eq_newline_or_isStringChar h
  rw [basicLines?] <;> simp_all

/-- A quote that has no two more behind it is a part of the string. -/
theorem basicLines?_quote {rest : List Char} (h : ∀ more, rest ≠ '"' :: '"' :: more) :
    basicLines? ('"' :: rest) = (basicLines? rest).map fun (value, rest) => ('"' :: value, rest) := by
  have hchar : isStringChar '"' = true := by decide
  rw [basicLines?] <;> simp_all

/-- Behind a quote that stands as itself there are not two more, unless the string ends. -/
theorem not_twoQuotes {run : Nat} {c : Char} {text : List Char} (hrun : run < 2)
    (h : ¬(run = 0 ∧ c = '"' ∧ text = [])) (rest more : List Char) :
    escapeChars true 2 (run + 1) (c :: text) ++ rest ≠ '"' :: '"' :: more := by
  intro heq
  by_cases hnext : run = 0 ∧ c = '"'
  · obtain ⟨rfl, rfl⟩ := hnext
    -- The second quote stands as itself, and is not the last character.
    obtain ⟨d, text, rfl⟩ := List.exists_cons_of_ne_nil fun hnil => h ⟨rfl, rfl, hnil⟩
    obtain ⟨head, tail, hhead, hne⟩ := exists_head_escapeChars true d text (.inr (Nat.le_refl 2))
    rw [escapeChars, if_pos rfl, if_pos (by decide), hhead] at heq
    simp [hne] at heq
  · have hhead : c ≠ '"' ∨ 2 ≤ run + 1 := by
      by_cases hc : c = '"'
      · right
        have hne : run ≠ 0 := fun hzero => hnext ⟨hzero, hc⟩
        omega
      · exact .inl hc
    obtain ⟨head, tail, hhead, hne⟩ := exists_head_escapeChars true c text hhead
    rw [hhead] at heq
    simp [hne] at heq

/-- A string over lines, with its quotes escaped where three would stand in a row, is read as it was. -/
theorem basicLines?_escapeChars (run : Nat) (text rest : List Char) :
    basicLines? (escapeChars true 2 run text ++ '"' :: '"' :: '"' :: '\n' :: rest) = some (text, '\n' :: rest) := by
  induction text generalizing run with
  | nil => simp [escapeChars, basicLines?]
  | cons c text ih =>
    have hstep : ∀ {c : Char}, c.toNat < 128 →
        basicLines? (escapeChar c ++ escapeChars true 2 0 text ++ '"' :: '"' :: '"' :: '\n' :: rest) =
          some (c :: text, '\n' :: rest) := by
      intro c hc
      rw [List.append_assoc, basicLines?_escapeChar hc, ih]
      rfl
    rw [escapeChars]
    split
    case isTrue hquote =>
      subst hquote
      split
      case isTrue hrun =>
        -- At the end of the string the quote stands in front of the three that end it.
        cases text with
        | nil => simp [escapeChars, basicLines?]
        | cons d text =>
          by_cases hlast : run = 0 ∧ d = '"' ∧ text = []
          · obtain ⟨rfl, rfl, rfl⟩ := hlast
            simp [escapeChars, basicLines?]
          · rw [List.cons_append, basicLines?_quote ?_, ih]
            · rfl
            · exact not_twoQuotes hrun hlast _
      case isFalse hrun => exact hstep (by decide)
    case isFalse hquote =>
      -- The other characters are escaped or stand as themselves, as on a single line.
      split
      case isTrue hspecial =>
        apply hstep
        rcases hspecial with rfl | hcontrol | ⟨rfl, -⟩
        · decide
        · exact toNat_lt_of_isControl hcontrol
        · decide
      case isFalse hplain =>
        have hall : c ≠ '\\' ∧ isControl c = false := by simpa using hplain
        rw [List.cons_append, basicLines?_plain hquote hall.1 hall.2, ih]
        rfl

theorem literalLines?_plain {c : Char} (hquote : c ≠ '\'') (h : isControl c = false) (rest : List Char) :
    literalLines? (c :: rest) = (literalLines? rest).map fun (value, rest) => (c :: value, rest) := by
  have hreturn := ne_return h
  have hchar : c = '\n' ∨ isStringChar c = true := eq_newline_or_isStringChar h
  rw [literalLines?] <;> simp_all

theorem literalLines?_quote {rest : List Char} (h : ∀ more, rest ≠ '\'' :: '\'' :: more) :
    literalLines? ('\'' :: rest) = (literalLines? rest).map fun (value, rest) => ('\'' :: value, rest) := by
  have hchar : isStringChar '\'' = true := by decide
  rw [literalLines?] <;> simp_all

/-- A string in which no three quotes stand in a row is read as it stands. -/
theorem literalLines?_runsBelow {run : Nat} {text : List Char} (hruns : RunsBelow '\'' 3 run text)
    (hplain : ∀ c ∈ text, isControl c = false) (rest : List Char) :
    literalLines? (text ++ '\'' :: '\'' :: '\'' :: '\n' :: rest) = some (text, '\n' :: rest) := by
  induction text generalizing run with
  | nil => simp [literalLines?]
  | cons c text ih =>
    obtain ⟨hc, htext⟩ := List.forall_mem_cons.mp hplain
    rw [RunsBelow] at hruns
    -- A quote ends the string only if two more follow it.
    by_cases hquote : c = '\''
    · subst hquote
      obtain ⟨hrun, hmore⟩ := if_pos rfl ▸ hruns
      have htail := ih hmore htext
      cases text with
      | nil => simp [literalLines?]
      | cons d text =>
        by_cases hlast : d = '\'' ∧ text = []
        · obtain ⟨rfl, rfl⟩ := hlast
          simp [literalLines?]
        · rw [List.cons_append, literalLines?_quote ?_, htail]
          · rfl
          · -- Two more quotes would make a row of three.
            intro more heq
            obtain ⟨rfl, hrest⟩ := List.cons.inj heq
            obtain ⟨e, text, rfl⟩ := List.exists_cons_of_ne_nil fun hnil => hlast ⟨rfl, hnil⟩
            obtain ⟨rfl, -⟩ := List.cons.inj hrest
            simp only [RunsBelow, ↓reduceIte] at hmore
            omega
    · rw [if_neg hquote] at hruns
      rw [List.cons_append, literalLines?_plain hquote hc, ih hruns htext]
      rfl

/-! ## All forms -/

theorem runsBelow_of_not_mem {quote : Char} {bound run : Nat} {text : List Char} (h : quote ∉ text) :
    RunsBelow quote bound run text := by
  induction text generalizing run with
  | nil => trivial
  | cons c text ih =>
    obtain ⟨hc, htext⟩ := List.ne_and_not_mem_of_not_mem_cons h
    rw [RunsBelow, if_neg hc.symm]
    exact ih htext

/-- A string in double quotes on one line is told from one in three quotes: no quote in it stands as itself. -/
theorem string?_basic (text rest : List Char) :
    string? ('"' :: escapeChars false 0 0 text ++ '"' :: '\n' :: rest) = some (text, '\n' :: rest) := by
  have hread := basicString?_escapeChars text ('\n' :: rest)
  rw [List.cons_append]
  cases text with
  | nil => exact hread
  | cons c text =>
    obtain ⟨head, tail, hhead, hne⟩ := exists_head_escapeChars false c text (.inr (Nat.le_refl 0))
    rw [hhead] at hread ⊢
    rw [string?] <;> simp_all

theorem string?_literal {text : List Char} (hplain : ∀ c ∈ text, isControl c = false) (hline : '\n' ∉ text)
    (hquote : '\'' ∉ text) (rest : List Char) :
    string? ('\'' :: text ++ '\'' :: '\n' :: rest) = some (text, '\n' :: rest) := by
  have hread := literalString?_plain hplain hline hquote ('\n' :: rest)
  rw [List.cons_append]
  cases text with
  | nil => exact hread
  | cons c text =>
    have hc : c ≠ '\'' := (List.ne_and_not_mem_of_not_mem_cons hquote).1.symm
    rw [string?] <;> simp_all

/-- The line end behind three quotes is left out. Where there is none, the text does not begin with one. -/
theorem exists_inThree_append (quote : Char) (hquote : quote ≠ '\n' ∧ quote ≠ '\r') {lines : Bool} {text : List Char}
    (h : lines = false → ∀ c ∈ text, c ≠ '\n' ∧ c ≠ '\r') (rest : List Char) :
    ∃ more, inThree quote lines text ++ rest = quote :: quote :: quote :: more ∧
      dropFirstLineEnd more = text ++ quote :: quote :: quote :: rest := by
  cases lines with
  | true => exact ⟨'\n' :: (text ++ quote :: quote :: quote :: rest), by simp [inThree], rfl⟩
  | false =>
    -- Without a line end behind the quotes the first character of the text has to be no line end.
    refine ⟨text ++ quote :: quote :: quote :: rest, by simp [inThree], ?_⟩
    have hhead : ∀ c more, c ≠ '\n' ∧ c ≠ '\r' → dropFirstLineEnd (c :: more) = c :: more := by
      rintro c more ⟨hline, hreturn⟩
      simp [dropFirstLineEnd, lineEnd?, hline, hreturn]
    cases text with
    | nil => exact hhead _ _ hquote
    | cons c text => exact hhead _ _ (h rfl c List.mem_cons_self)

theorem string?_basicLines (lines : Bool) (text : List Char)
    (h : lines = false → ∀ c ∈ escapeChars true 2 0 text, c ≠ '\n' ∧ c ≠ '\r') (rest : List Char) :
    string? (inThree '"' lines (escapeChars true 2 0 text) ++ '\n' :: rest) = some (text, '\n' :: rest) := by
  obtain ⟨more, heq, hmore⟩ := exists_inThree_append '"' (by decide) h ('\n' :: rest)
  rw [heq, string?, hmore, basicLines?_escapeChars]

theorem string?_literalLines {lines : Bool} {text : List Char} (hruns : RunsBelow '\'' 3 0 text)
    (hplain : ∀ c ∈ text, isControl c = false) (hline : lines = false → '\n' ∉ text) (rest : List Char) :
    string? (inThree '\'' lines text ++ '\n' :: rest) = some (text, '\n' :: rest) := by
  have hends : lines = false → ∀ c ∈ text, c ≠ '\n' ∧ c ≠ '\r' := by
    intro hlines c hc
    exact ⟨fun heq => hline hlines (heq ▸ hc), ne_return (hplain c hc)⟩
  obtain ⟨more, heq, hmore⟩ := exists_inThree_append '\'' (by decide) hends ('\n' :: rest)
  rw [heq, string?, hmore, literalLines?_runsBelow hruns hplain]

/-- **A written string is read back**, whatever its characters are, if the line ends behind it. -/
theorem string?_quoteChars (text rest : List Char) :
    string? (quoteChars text ++ '\n' :: rest) = some (text, '\n' :: rest) := by
  -- The cases are the forms of a string in the order in which the writer tries them.
  unfold quoteChars
  dsimp only
  split
  -- No quote and nothing to be escaped: the string stands as it is.
  case isTrue hform =>
    obtain ⟨hplain, hline, hbackslash, hquote⟩ : (∀ c ∈ text, isControl c = false) ∧ '\n' ∉ text ∧ '\\' ∉ text ∧
        '"' ∉ text := by simpa [and_assoc] using hform
    have hsame : escapeChars false 0 0 text = text :=
      escapeChars_of_runsBelow (runsBelow_of_not_mem hquote) hplain hbackslash fun h => absurd h hline
    have hread := string?_basic text rest
    rw [hsame] at hread
    simpa using hread
  split
  -- One line without an apostrophe: a literal string.
  case isTrue hform =>
    obtain ⟨hplain, hline, hquote⟩ : (∀ c ∈ text, isControl c = false) ∧ '\n' ∉ text ∧ '\'' ∉ text := by
      simpa [and_assoc] using hform
    simpa using string?_literal hplain hline hquote rest
  split
  -- No backslash, and quotes never stand three in a row: three quotes around it.
  case isTrue hform =>
    obtain ⟨hplain, hbackslash, hrun⟩ : (∀ c ∈ text, isControl c = false) ∧ '\\' ∉ text ∧ longestRun '"' text < 3 := by
      simpa [and_assoc] using hform
    have hsame : escapeChars true 2 0 text = text :=
      escapeChars_of_runsBelow (runsBelow_of_longestRun_lt hrun) hplain hbackslash fun _ => rfl
    have hread := string?_basicLines (text.contains '\n') text ?_ rest
    · rwa [hsame] at hread
    · rw [hsame]
      intro hlines c hc
      exact ⟨by rintro rfl; simp [hc] at hlines, ne_return (hplain c hc)⟩
  split
  -- Apostrophes never stand three in a row: three apostrophes around it.
  case isTrue hform =>
    obtain ⟨hplain, hrun⟩ : (∀ c ∈ text, isControl c = false) ∧ longestRun '\'' text < 3 := by simpa using hform
    exact string?_literalLines (runsBelow_of_longestRun_lt hrun) hplain (by simp) rest
  split
  -- Everything else is escaped, over several lines or on one.
  case isTrue hlines =>
    rw [hlines]
    exact string?_basicLines true text (by simp) rest
  case isFalse => simpa using string?_basic text rest

end Highlighter.Toml
