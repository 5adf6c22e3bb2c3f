import Highlighter.Proofs.CommandLine.Steps

/-!
# Runs that fail

A run fails at one of its steps, and the files are as the steps before that one left them, with what the step itself did
before it failed. That is said once, by a relation with a constructor for each step that can fail, and what failed runs
have in common is shown by its cases. Main statement: a run that fails for its settings, its marker or its document has
changed nothing, unless it stored its settings before it met the document, and then it has stored them and no more.
-/

namespace Highlighter

open FileSystem

/-! ## Steps -/

namespace RunT

variable {α β : Type}

/-- A step fails, whatever it has reported. -/
def Fails (step : RunT (StateM FileSystem) α) (records : List Log.Record) (files : FileSystem) (failure : Failure)
    (later : FileSystem) : Prop :=
  ∃ more, perform step records files = ((.error failure, more), later)

variable {files later : FileSystem} {records : List Log.Record} {failure : Failure}

theorem fails_bind_iff {step : RunT (StateM FileSystem) α} {next : α → RunT (StateM FileSystem) β} :
    Fails (step >>= next) records files failure later ↔ Fails step records files failure later ∨
      ∃ first reported between, perform step records files = ((.ok first, reported), between) ∧
        Fails (next first) reported between failure later := by
  unfold Fails
  rw [perform_bind]
  cases hstep : perform step records files with
  | mk outcome between =>
    obtain ⟨result, reported⟩ := outcome
    cases result with
    -- The first step fails, and the next one is not made.
    | error failed => simp
    | ok first =>
      -- The first step gives a value, so a failure is that of the next step.
      simp only [Prod.mk.injEq, Except.ok.injEq, reduceCtorEq, false_and, exists_false, false_or]
      constructor
      · exact fun hnext => ⟨first, reported, between, ⟨⟨rfl, rfl⟩, rfl⟩, hnext⟩
      · rintro ⟨first, reported, between, ⟨⟨rfl, rfl⟩, rfl⟩, hnext⟩
        exact hnext

theorem not_fails_pure {given : α} : ¬Fails (pure given) records files failure later := nofun

theorem fails_throw_iff {thrown : Failure} :
    Fails (throw thrown : RunT (StateM FileSystem) α) records files failure later ↔
      failure = thrown ∧ later = files := by
  have heq : perform (throw thrown : RunT (StateM FileSystem) α) records files = ((.error thrown, records), files) := rfl
  rw [Fails, heq]
  simp [eq_comm]

theorem not_fails_report {reported : List Log.Record} : ¬Fails (report reported) records files failure later := nofun

theorem fails_attempt_iff {ε : Type} {word : ε → Failure} {step : ExceptT ε (StateM FileSystem) α} :
    Fails (attempt word step) records files failure later ↔
      ∃ error, failure = word error ∧ FileSystem.perform step files = (.error error, later) := by
  rw [Fails, perform_attempt]
  cases FileSystem.perform step files with
  | mk result between =>
    cases result with
    | ok value => simp
    | error failed =>
      -- A failure of the inner step is worded, and leaves the records as they were.
      constructor
      · rintro ⟨more, heq⟩
        cases heq
        exact ⟨failed, rfl, rfl⟩
      · rintro ⟨error, rfl, heq⟩
        cases heq
        exact ⟨records, rfl⟩

end RunT

/-! ## Loading the settings -/

section

variable {parser : Parser} {environment : Environment} {options : Options} {settings : Settings}
  {files later : FileSystem} {records : List Log.Record} {failure : Failure}

/-- Loading the settings fails if they are refused, or if the file is missing that the options name and do not create. -/
theorem fails_loadSettings_iff :
    RunT.Fails (loadSettings environment options) records files failure later ↔ later = files ∧
      ((∃ error, failure = .settings error ∧
          FileSystem.perform (Settings.load environment (options.settingsPath environment)) files = (.error error, files)) ∨
        ∃ path, options.settingsFile = some path ∧ options.storeSettings = false ∧ failure = .settingsMissing path ∧
          FileSystem.perform (Settings.load environment path) files = (.ok none, files)) := by
  unfold loadSettings Options.settingsPath
  cases hfile : options.settingsFile with
  | none =>
    -- In the usual place a missing file is no failure.
    simp only [RunT.fails_bind_iff, RunT.fails_attempt_iff, RunT.not_fails_pure, Option.getD_none, and_false,
      exists_false, or_false, reduceCtorEq, false_and]
    constructor
    · rintro ⟨error, rfl, hperform⟩
      obtain rfl := Settings.files_of_perform_load hperform
      exact ⟨rfl, error, rfl, hperform⟩
    · rintro ⟨rfl, error, rfl, hperform⟩
      exact ⟨error, rfl, hperform⟩
  | some path =>
    simp only [RunT.fails_bind_iff, RunT.fails_attempt_iff, RunT.perform_attempt_eq_ok_iff, Option.getD_some]
    constructor
    · rintro (⟨error, rfl, hperform⟩ | ⟨stored, _, between, ⟨rfl, hperform⟩, hnext⟩)
      · obtain rfl := Settings.files_of_perform_load hperform
        exact ⟨rfl, .inl ⟨error, rfl, hperform⟩⟩
      · obtain rfl := Settings.files_of_perform_load hperform
        -- What was loaded is used, and nothing is missed where it may be missing.
        cases stored with
        | some found => exact absurd hnext RunT.not_fails_pure
        | none =>
          by_cases hstore : options.storeSettings = true
          · rw [if_pos hstore] at hnext
            exact absurd hnext RunT.not_fails_pure
          · rw [if_neg hstore] at hnext
            obtain ⟨rfl, rfl⟩ := RunT.fails_throw_iff.mp hnext
            exact ⟨rfl, .inr ⟨path, rfl, by simpa using hstore, rfl, hperform⟩⟩
    · rintro ⟨rfl, ⟨error, rfl, hperform⟩ | ⟨_, ⟨⟩, hstore, rfl, hperform⟩⟩
      · exact .inl ⟨error, rfl, hperform⟩
      · -- Nothing is at the path and nothing is to be written there, so the last branch is the failing one.
        refine .inr ⟨none, records, later, ⟨rfl, hperform⟩, ?_⟩
        rw [if_neg (by simp [hstore])]
        exact RunT.fails_throw_iff.mpr ⟨rfl, rfl⟩

/-! ## Highlighting -/

theorem fails_storeSettings_iff :
    RunT.Fails (storeSettings environment options settings) records files failure later ↔
      options.storeSettings = true ∧ ∃ fault, failure = .settingsNotStored (options.settingsPath environment) fault ∧
        FileSystem.perform (settings.save (options.settingsPath environment)) files = (.error fault, later) := by
  unfold storeSettings Options.settingsPath
  cases options.storeSettings with
  | false => simp [RunT.not_fails_pure]
  | true =>
    simp only [↓reduceIte, RunT.fails_bind_iff, RunT.fails_attempt_iff, RunT.not_fails_report, and_false, exists_false,
      or_false, true_and]

/-- What highlighting has done when the document is read. -/
structure Prepared (environment : Environment) (options : Options) (settings : Settings) (files : FileSystem)
    (delimiter : Delimiter) (stored : FileSystem) (source : String) : Prop where
  marker : Delimiter.ofMarker settings.marker = .ok delimiter
  settings_stored : SettingsStored environment options settings files stored
  document : ∃ place, stored.find options.input = .ok (place, .text source)

/-- How highlighting fails, and the files that it leaves: one constructor for each step at which it may fail. -/
inductive HighlightFails (parser : Parser) (environment : Environment) (options : Options) (settings : Settings)
    (files : FileSystem) : Failure → FileSystem → Prop where
  | marker {error : DelimiterError} (hmarker : Delimiter.ofMarker settings.marker = .error error) :
      HighlightFails parser environment options settings files (.marker error) files
  | settingsNotStored {delimiter : Delimiter} {fault : Fault} {later : FileSystem}
      (hmarker : Delimiter.ofMarker settings.marker = .ok delimiter) (hstore : options.storeSettings = true)
      (hsave : FileSystem.perform (settings.save (options.settingsPath environment)) files = (.error fault, later)) :
      HighlightFails parser environment options settings files
        (.settingsNotStored (options.settingsPath environment) fault) later
  | notRead {delimiter : Delimiter} {stored : FileSystem} {error : DocumentError}
      (hmarker : Delimiter.ofMarker settings.marker = .ok delimiter)
      (hstored : SettingsStored environment options settings files stored)
      (hread : FileSystem.perform (readDocument options.input) stored = (.error error, stored)) :
      HighlightFails parser environment options settings files (.notRead options.input error) stored
  | treeNotWritten {delimiter : Delimiter} {stored later : FileSystem} {source : String} {error : DocumentError}
      (hprepared : Prepared environment options settings files delimiter stored source)
      (hwrite : FileSystem.perform (writeDocument ((options.directory settings).join treeFile)
        (highlighted parser delimiter source).value.dumpIndented) stored = (.error error, later)) :
      HighlightFails parser environment options settings files
        (.notWritten ((options.directory settings).join treeFile) error) later
  | pageNotWritten {delimiter : Delimiter} {stored between later : FileSystem} {source : String} {error : DocumentError}
      (hprepared : Prepared environment options settings files delimiter stored source)
      (htree : Stored ((options.directory settings).join treeFile)
        (highlighted parser delimiter source).value.dumpIndented stored between)
      (hpage : options.noPage = false)
      (hwrite : FileSystem.perform (writeDocument ((options.directory settings).join pageFile)
        ((options.renderer settings).render (highlighted parser delimiter source).value)) between = (.error error, later)) :
      HighlightFails parser environment options settings files
        (.notWritten ((options.directory settings).join pageFile) error) later

/-- The last step of highlighting fails if there is a page and it cannot be stored. -/
theorem fails_storePage_iff {path : Path} {page : String} :
    RunT.Fails (do
        if !options.noPage then
          RunT.attempt (.notWritten path) (writeDocument path page)
          RunT.report [.pageWritten path.text]
        return page) records files failure later ↔
      options.noPage = false ∧ ∃ error, failure = .notWritten path error ∧
        FileSystem.perform (writeDocument path page) files = (.error error, later) := by
  cases options.noPage with
  | true => simp [RunT.not_fails_pure]
  | false =>
    simp only [Bool.not_false, ↓reduceIte, RunT.fails_bind_iff, RunT.fails_attempt_iff, RunT.not_fails_report,
      RunT.not_fails_pure, and_false, exists_false, or_false, true_and]

/-- Highlighting fails if one of its steps does, on the files that the steps before it left. -/
theorem fails_highlight_iff :
    RunT.Fails (highlight parser environment options settings) records files failure later ↔
      HighlightFails parser environment options settings files failure later := by
  unfold highlight
  cases hmarker : Delimiter.ofMarker settings.marker with
  | error error =>
    -- A marker that is refused ends the run before anything is written.
    simp only [RunT.fails_bind_iff, RunT.fails_throw_iff, RunT.perform_throw_ne_ok, false_and, exists_false, or_false]
    constructor
    · rintro ⟨rfl, rfl⟩
      exact .marker hmarker
    · intro h
      cases h with
      | marker hother =>
        obtain rfl := Except.error.inj (hmarker.symm.trans hother)
        exact ⟨rfl, rfl⟩
      -- Every later failure has a marker that was accepted.
      | settingsNotStored hother | notRead hother => simp [hmarker] at hother
      | treeNotWritten hprepared | pageNotWritten hprepared => exact absurd (hmarker.symm.trans hprepared.marker) nofun
  | ok delimiter =>
    -- With a marker the steps are opened one after another: storing, reading, the tree, the page.
    simp only [RunT.fails_bind_iff, RunT.not_fails_pure, RunT.fails_attempt_iff, RunT.not_fails_report,
      RunT.perform_pure_eq_ok_iff, RunT.perform_attempt_eq_ok_iff, RunT.perform_report_eq_ok_iff,
      fails_storeSettings_iff, perform_storeSettings_eq_ok_iff, perform_readDocument_eq_ok_iff,
      perform_writeDocument_eq_ok_iff, exists_const, false_or]
    constructor
    · rintro ⟨_, _, _, ⟨rfl, rfl, rfl⟩, ⟨hstore, fault, rfl, hsave⟩ | ⟨_, stored, ⟨-, hstored⟩, _, _, ⟨-, rfl⟩, hrest⟩⟩
      · exact .settingsNotStored hmarker hstore hsave
      · rcases hrest with ⟨error, rfl, hread⟩ | ⟨source, _, _, ⟨-, rfl, hsource⟩, _, _, ⟨-, rfl⟩, hrest⟩
        · -- Reading changes no file, so what is left is what storing the settings left.
          obtain rfl : _ = later := (congrArg Prod.snd (perform_readDocument _ _)).symm.trans (congrArg Prod.snd hread)
          exact .notRead hmarker hstored hread
        · have hprepared : Prepared environment options settings _ _ _ source := ⟨hmarker, hstored, hsource⟩
          -- The document has been read, so that it is the tree or the page that is not written.
          rcases hrest with ⟨error, rfl, hwrite⟩ | ⟨_, between, ⟨-, htree⟩, _, _, ⟨-, rfl⟩, hlast⟩
          · exact .treeNotWritten hprepared hwrite
          · obtain ⟨hpage, error, rfl, hwrite⟩ := fails_storePage_iff.mp hlast
            exact .pageNotWritten hprepared htree hpage hwrite
    · intro h
      -- Conversely each constructor says which steps went well, and which one fails behind them.
      cases h with
      | marker hother => simp [hmarker] at hother
      | settingsNotStored _ hstore hsave => exact ⟨_, _, _, ⟨rfl, rfl, rfl⟩, .inl ⟨hstore, _, rfl, hsave⟩⟩
      | notRead _ hstored hread =>
        exact ⟨_, _, _, ⟨rfl, rfl, rfl⟩, .inr ⟨_, _, ⟨rfl, hstored⟩, _, _, ⟨rfl, rfl⟩, .inl ⟨_, rfl, hread⟩⟩⟩
      | treeNotWritten hprepared hwrite =>
        obtain rfl := Except.ok.inj (hmarker.symm.trans hprepared.marker)
        exact ⟨_, _, _, ⟨rfl, rfl, rfl⟩, .inr ⟨_, _, ⟨rfl, hprepared.settings_stored⟩, _, _, ⟨rfl, rfl⟩,
          .inr ⟨_, _, _, ⟨rfl, rfl, hprepared.document⟩, _, _, ⟨rfl, rfl⟩, .inl ⟨_, rfl, hwrite⟩⟩⟩⟩
      | pageNotWritten hprepared htree hpage hwrite =>
        obtain rfl := Except.ok.inj (hmarker.symm.trans hprepared.marker)
        exact ⟨_, _, _, ⟨rfl, rfl, rfl⟩, .inr ⟨_, _, ⟨rfl, hprepared.settings_stored⟩, _, _, ⟨rfl, rfl⟩,
          .inr ⟨_, _, _, ⟨rfl, rfl, hprepared.document⟩, _, _, ⟨rfl, rfl⟩,
            .inr ⟨_, _, ⟨rfl, htree⟩, _, _, ⟨rfl, rfl⟩, fails_storePage_iff.mpr ⟨hpage, _, rfl, hwrite⟩⟩⟩⟩⟩

/-! ## A whole run -/

/-- The settings of a run: those that it loads, as far as its options do not override them. -/
def Effective (environment : Environment) (options : Options) (files : FileSystem) (settings : Settings) : Prop :=
  ∃ loaded, SettingsLoaded environment options files loaded ∧ settings = options.override loaded

/-- How a run fails, and the files that it leaves. -/
inductive RunFails (parser : Parser) (environment : Environment) (options : Options) (files : FileSystem) :
    Failure → FileSystem → Prop where
  | settings {error : SettingsError}
      (hload : FileSystem.perform (Settings.load environment (options.settingsPath environment)) files =
        (.error error, files)) :
      RunFails parser environment options files (.settings error) files
  | settingsMissing {path : Path} (hpath : options.settingsFile = some path) (hstore : options.storeSettings = false)
      (hload : FileSystem.perform (Settings.load environment path) files = (.ok none, files)) :
      RunFails parser environment options files (.settingsMissing path) files
  | highlight {settings : Settings} {failure : Failure} {later : FileSystem}
      (heffective : Effective environment options files settings)
      (hfails : HighlightFails parser environment options settings files failure later) :
      RunFails parser environment options files failure later

/-- A run fails if its settings are not loaded, or the highlighting with them fails. -/
theorem runOn_eq_error_iff :
    (∃ records, runOn parser files environment options = ((.error failure, records), later)) ↔
      RunFails parser environment options files failure later := by
  have heq : (∃ records, runOn parser files environment options = ((.error failure, records), later)) ↔
      RunT.Fails (do
        highlight parser environment options (options.override (← loadSettings environment options))) [] files failure
        later := Iff.rfl
  rw [heq, RunT.fails_bind_iff]
  simp only [fails_loadSettings_iff, fails_highlight_iff, perform_loadSettings_eq_ok_iff]
  constructor
  · rintro (⟨rfl, ⟨error, rfl, hload⟩ | ⟨path, hpath, hstore, rfl, hload⟩⟩ | ⟨loaded, _, _, ⟨-, rfl, hloaded⟩, hfails⟩)
    · -- Either loading fails, in one of its two ways, or what follows it.
      exact .settings hload
    · exact .settingsMissing hpath hstore hload
    · exact .highlight ⟨loaded, hloaded, rfl⟩ hfails
  · intro h
    cases h with
    | settings hload => exact .inl ⟨rfl, .inl ⟨_, rfl, hload⟩⟩
    | settingsMissing hpath hstore hload => exact .inl ⟨rfl, .inr ⟨_, hpath, hstore, rfl, hload⟩⟩
    | highlight heffective hfails =>
      obtain ⟨loaded, hloaded, rfl⟩ := heffective
      exact .inr ⟨loaded, [], files, ⟨rfl, rfl, hloaded⟩, hfails⟩

/-! ## Failures before the output -/

/-- Whether a run fails for its settings, its marker or its document, before it has a tree. -/
def Failure.isEarly : Failure → Bool
  | .settings _ | .settingsMissing _ | .marker _ | .notRead _ _ => true
  | .settingsNotStored _ _ | .notWritten _ _ => false

/-- **A run that fails early changes nothing but the settings that it was to store.** If it fails for its settings or its
marker, or stores no settings, then the files are as they were. If it stores its settings and then cannot read its
document, then the settings are stored, directories above them may be new, and everything else is as it was. -/
theorem changes_of_early_failure
    (hrun : runOn parser files environment options = ((.error failure, records), later)) (hearly : failure.isEarly = true) :
    ((options.storeSettings = false ∨ ∀ error, failure ≠ .notRead options.input error) → later = files) ∧
      (options.storeSettings = true → (∃ error, failure = .notRead options.input error) →
        ∃ settings, Effective environment options files settings ∧
          later.readText (options.settingsPath environment) = .ok settings.write ∧
          Changes [files.placeOf (options.settingsPath environment)] (·.IsAbove (options.settingsPath environment)) files
            later) := by
  have hfails := runOn_eq_error_iff.mp ⟨records, hrun⟩
  cases hfails with
  -- Loading changes nothing, and its failures are none at the document.
  | settings hload => exact ⟨fun _ => rfl, nofun⟩
  | settingsMissing hpath hstore hload => exact ⟨fun _ => rfl, nofun⟩
  | @highlight settings _ _ heffective hfails =>
    cases hfails with
    | marker hmarker => exact ⟨fun _ => rfl, nofun⟩
    -- These steps come behind the ones at which a run fails early.
    | settingsNotStored | treeNotWritten | pageNotWritten => simp [Failure.isEarly] at hearly
    | notRead hmarker hstored hread =>
      -- Only a run that stores its settings has changed a file when it comes to its document.
      cases hstore : options.storeSettings with
      | false =>
        rw [SettingsStored, hstore] at hstored
        exact ⟨fun _ => hstored, nofun⟩
      | true =>
        rw [SettingsStored, hstore, if_pos rfl] at hstored
        obtain ⟨place, hfind, -, -⟩ := hstored.spec
        refine ⟨fun hnone => ?_, fun _ _ => ⟨settings, heffective, readText_of_find hfind, hstored.changes.1⟩⟩
        exact (hnone.resolve_left nofun _ rfl).elim

end

/-- Options that name a document and a file for the settings, which are stored there. -/
def storingOptions : Options := ⟨⟨"a.md"⟩, none, some ⟨"c.toml"⟩, none, none, false, false, true⟩

/-- There is another document, in a directory. -/
def elsewhere : FileSystem := ⟨[(["d"], .directory), (["d", "b.md"], .text "x")], []⟩

/-- Where only another document is, the settings are stored, and then the document is missing. -/
theorem exists_runOn_elsewhere (parser : Parser) (environment : Environment) :
    ∃ records, runOn parser elsewhere environment storingOptions =
      ((.error (.notRead ⟨"a.md"⟩ (.notFound ⟨"a.md"⟩)), records),
        elsewhere.put ["c.toml"] (.text (storingOptions.override .standard).write)) := by
  have habsent : elsewhere.isPresent ⟨"c.toml"⟩ = false := by decide
  have hloaded : SettingsLoaded environment storingOptions elsewhere .standard := .standard habsent (.inr rfl)
  have hstored : Stored ⟨"c.toml"⟩ (storingOptions.override .standard).write elsewhere
      (elsewhere.put ["c.toml"] (.text (storingOptions.override .standard).write)) :=
    stored_of_isDirectory ⟨""⟩ (by decide) (by simp) rfl (by decide) (by decide)
  refine runOn_eq_error_iff.mpr (.highlight ⟨_, hloaded, rfl⟩ (.notRead (Delimiter.ofMarker_eq_ok_iff.mpr rfl) hstored ?_))
  rw [perform_readDocument]
  rfl

/-- So the settings are stored though the document is missing, and the other document stays as it is. -/
theorem changes_of_early_failure_elsewhere :
    ∃ records later settings, runOn Markdown.events elsewhere ⟨[], none⟩ storingOptions =
        ((.error (.notRead ⟨"a.md"⟩ (.notFound ⟨"a.md"⟩)), records), later) ∧
      (Failure.notRead ⟨"a.md"⟩ (.notFound ⟨"a.md"⟩)).isEarly = true ∧
      Effective ⟨[], none⟩ storingOptions elsewhere settings ∧ later.readText ⟨"c.toml"⟩ = .ok settings.write ∧
      Changes [["c.toml"]] (·.IsAbove ⟨"c.toml"⟩) elsewhere later ∧
      later.entry? ["d", "b.md"] = some (.text "x") ∧ later.entry? ["d"] = some .directory := by
  obtain ⟨records, hrun⟩ := exists_runOn_elsewhere Markdown.events ⟨[], none⟩
  obtain ⟨settings, heffective, hread, hchanges⟩ := (changes_of_early_failure hrun rfl).2 rfl ⟨_, rfl⟩
  refine ⟨records, _, settings, hrun, rfl, heffective, hread, hchanges, ?_, ?_⟩
  · exact (hchanges.file_iff (by decide) (by decide)).mpr rfl
  · exact (hchanges.entry ["d"] (by decide)).resolve_right (by simp [elsewhere, entry?])

/-- A run that fails for its document need not leave the files as they were. -/
theorem not_same_of_early_failure :
    ¬∀ (environment : Environment) (options : Options) (files later : FileSystem) (failure : Failure)
      (records : List Log.Record), runOn Markdown.events files environment options = ((.error failure, records), later) →
        failure.isEarly = true → Same files later := by
  intro hall
  obtain ⟨records, hrun⟩ := exists_runOn_elsewhere Markdown.events ⟨[], none⟩
  have hsame := (hall _ _ _ _ _ _ hrun rfl).entry ["c.toml"]
  rw [entry?_put _ (by simp), if_pos rfl] at hsame
  contradiction

end Highlighter
