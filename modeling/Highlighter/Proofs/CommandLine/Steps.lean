import Highlighter.CommandLine.Run
import Highlighter.Proofs.Settings.Storage
import Mathlib.Tactic.Tauto

/-!
# Steps of a run

A run on a file system is a row of steps, each on what the one before it left. Main statement: what a run does that
succeeds, step by step. It loads the settings, has a marker, stores the settings if it is asked to, reads the document,
and stores the tree and then the page.
-/

namespace Highlighter

open FileSystem

/-! ## One step -/

namespace RunT

variable {α β : Type}

/-- What a step of a run gives on a file system, with the records so far, and the file system that it leaves. -/
def perform (step : RunT (StateM FileSystem) α) (records : List Log.Record) (files : FileSystem) :
    (Except Failure α × List Log.Record) × FileSystem :=
  Id.run (StateT.run (StateT.run (ExceptT.run step) records) files)

theorem perform_bind (step : RunT (StateM FileSystem) α) (next : α → RunT (StateM FileSystem) β)
    (records : List Log.Record) (files : FileSystem) :
    perform (step >>= next) records files =
      match perform step records files with
      | ((.ok value, records), later) => perform (next value) records later
      | ((.error failure, records), later) => ((.error failure, records), later) := by
  simp only [perform, bind, ExceptT.bind, ExceptT.run, ExceptT.mk, StateT.run, StateT.bind, Id.run]
  cases hstep : step records files with
  | mk outcome later =>
    obtain ⟨result, more⟩ := outcome
    cases result <;> rfl

variable {files later : FileSystem} {records more : List Log.Record}

theorem perform_bind_eq_ok_iff {step : RunT (StateM FileSystem) α} {next : α → RunT (StateM FileSystem) β}
    {value : β} :
    perform (step >>= next) records files = ((.ok value, more), later) ↔ ∃ first reported between,
      perform step records files = ((.ok first, reported), between) ∧
        perform (next first) reported between = ((.ok value, more), later) := by
  rw [perform_bind]
  cases hstep : perform step records files with
  | mk outcome between =>
    obtain ⟨result, reported⟩ := outcome
    cases result with
    -- The next step is not made, so there is no value on either side.
    | error failure => simp
    | ok first =>
      -- What the first step gave is the only thing that the next one can begin with.
      simp only [Prod.mk.injEq, Except.ok.injEq]
      constructor
      · exact fun hnext => ⟨first, reported, between, ⟨⟨rfl, rfl⟩, rfl⟩, hnext⟩
      · rintro ⟨first, reported, between, ⟨⟨rfl, rfl⟩, rfl⟩, hnext⟩
        exact hnext

theorem perform_pure_eq_ok_iff {given value : α} :
    perform (pure given) records files = ((.ok value, more), later) ↔ value = given ∧ more = records ∧ later = files := by
  have heq : perform (pure given) records files = ((.ok given, records), files) := rfl
  rw [heq]
  simp [and_assoc, eq_comm]

theorem perform_throw_ne_ok {failure : Failure} {value : α} :
    perform (throw failure) records files ≠ ((.ok value, more), later) := nofun

theorem perform_report_eq_ok_iff {reported : List Log.Record} {value : Unit} :
    perform (report reported) records files = ((.ok value, more), later) ↔
      more = records ++ reported ∧ later = files := by
  have heq : perform (report reported) records files = ((.ok (), records ++ reported), files) := rfl
  rw [heq]
  simp [eq_comm]

/-- What a step gives that may fail with an error of its own. It reports nothing. -/
theorem perform_attempt {ε : Type} {failure : ε → Failure} {step : ExceptT ε (StateM FileSystem) α} :
    perform (attempt failure step) records files =
      match FileSystem.perform step files with
      | (.ok value, later) => ((.ok value, records), later)
      | (.error error, later) => ((.error (failure error), records), later) := by
  rw [attempt, perform_bind]
  -- The inner step runs on the files alone; the records pass it by.
  have hlift : perform (liftM (StateT.lift (ExceptT.run step) : StateT (List Log.Record) _ _)) records files =
      ((.ok (FileSystem.perform step files).1, records), (FileSystem.perform step files).2) := rfl
  rw [hlift]
  cases FileSystem.perform step files with
  | mk result between => cases result <;> rfl

theorem perform_attempt_eq_ok_iff {ε : Type} {failure : ε → Failure} {step : ExceptT ε (StateM FileSystem) α}
    {value : α} :
    perform (attempt failure step) records files = ((.ok value, more), later) ↔
      more = records ∧ FileSystem.perform step files = (.ok value, later) := by
  rw [perform_attempt]
  cases FileSystem.perform step files with
  | mk result between => cases result <;> grind

end RunT

/-! ## The settings of a run -/

section

variable {parser : Parser} {environment : Environment} {options : Options} {files later : FileSystem}
  {records more : List Log.Record} {settings : Settings}

/-- Where the settings of a run are. -/
def Options.settingsPath (options : Options) (environment : Environment) : Path :=
  options.settingsFile.getD (Settings.standardPath environment)

/-- The settings that a run begins with: those in its file, or the usual ones if it may do without a file. -/
def SettingsLoaded (environment : Environment) (options : Options) (files : FileSystem) (settings : Settings) : Prop :=
  ∃ stored, FileSystem.perform (Settings.load environment (options.settingsPath environment)) files =
      (.ok stored, files) ∧
    (stored = some settings ∨
      stored = none ∧ (options.settingsFile = none ∨ options.storeSettings = true) ∧ settings = .standard)

/-- A run begins with the usual settings if there is no file and it may do without. -/
theorem SettingsLoaded.standard (habsent : files.isPresent (options.settingsPath environment) = false)
    (hwithout : options.settingsFile = none ∨ options.storeSettings = true) :
    SettingsLoaded environment options files .standard :=
  ⟨none, Settings.perform_load_eq_none_iff.mpr ⟨rfl, habsent⟩, .inr ⟨rfl, hwithout, rfl⟩⟩

theorem perform_loadSettings_eq_ok_iff :
    RunT.perform (loadSettings environment options) records files = ((.ok settings, more), later) ↔
      more = records ∧ later = files ∧ SettingsLoaded environment options files settings := by
  unfold loadSettings SettingsLoaded Options.settingsPath
  cases hfile : options.settingsFile with
  | none =>
    -- The usual place may be empty, and then the usual settings are used.
    simp only [RunT.perform_bind_eq_ok_iff, RunT.perform_attempt_eq_ok_iff, RunT.perform_pure_eq_ok_iff,
      Option.getD_none]
    constructor
    · rintro ⟨stored, _, between, ⟨rfl, hperform⟩, rfl, rfl, rfl⟩
      obtain rfl := Settings.files_of_perform_load hperform
      refine ⟨rfl, rfl, stored, hperform, ?_⟩
      cases stored <;> simp
    · rintro ⟨rfl, rfl, stored, hperform, hstored⟩
      refine ⟨stored, _, _, ⟨rfl, hperform⟩, ?_, rfl, rfl⟩
      rcases hstored with rfl | ⟨rfl, -, rfl⟩ <;> rfl
  | some path =>
    simp only [RunT.perform_bind_eq_ok_iff, RunT.perform_attempt_eq_ok_iff, Option.getD_some]
    constructor
    · rintro ⟨stored, _, between, ⟨rfl, hperform⟩, hnext⟩
      obtain rfl := Settings.files_of_perform_load hperform
      -- The file that the options name may be missing only if it is to be written.
      cases stored with
      | some found =>
        obtain ⟨rfl, rfl, rfl⟩ := RunT.perform_pure_eq_ok_iff.mp hnext
        exact ⟨rfl, rfl, some settings, hperform, .inl rfl⟩
      | none =>
        by_cases hstore : options.storeSettings = true
        · -- The file is to be written, so the run begins with the usual settings.
          rw [if_pos hstore] at hnext
          obtain ⟨rfl, rfl, rfl⟩ := RunT.perform_pure_eq_ok_iff.mp hnext
          exact ⟨rfl, rfl, none, hperform, .inr ⟨rfl, .inr hstore, rfl⟩⟩
        · -- A file that is only read has to be there.
          rw [if_neg hstore] at hnext
          exact absurd hnext RunT.perform_throw_ne_ok
    · -- Conversely the two ways to come by the settings are the two branches behind the load.
      rintro ⟨rfl, rfl, stored, hperform, hstored⟩
      refine ⟨stored, _, _, ⟨rfl, hperform⟩, ?_⟩
      rcases hstored with rfl | ⟨rfl, hmay, rfl⟩
      · exact RunT.perform_pure_eq_ok_iff.mpr ⟨rfl, rfl, rfl⟩
      · simp only [hmay.resolve_left (by simp), ↓reduceIte, RunT.perform_pure_eq_ok_iff, and_self]

/-! ## Highlighting -/

/-- The records of a run about its settings. -/
def settingsRecords (environment : Environment) (options : Options) : List Log.Record :=
  if options.storeSettings then [.settingsWritten (options.settingsPath environment).text] else []

/-- The settings of a run are stored if it is asked to. -/
def SettingsStored (environment : Environment) (options : Options) (settings : Settings) (files later : FileSystem) :
    Prop :=
  if options.storeSettings then Stored (options.settingsPath environment) settings.write files later else later = files

theorem perform_storeSettings_eq_ok_iff {value : Unit} :
    RunT.perform (storeSettings environment options settings) records files = ((.ok value, more), later) ↔
      more = records ++ settingsRecords environment options ∧ SettingsStored environment options settings files later := by
  unfold storeSettings settingsRecords SettingsStored Options.settingsPath
  cases options.storeSettings with
  | false => simp [RunT.perform_pure_eq_ok_iff]
  | true =>
    simp only [↓reduceIte, RunT.perform_bind_eq_ok_iff, RunT.perform_attempt_eq_ok_iff, RunT.perform_report_eq_ok_iff,
      Settings.perform_save_eq_ok_iff, exists_const]
    constructor
    · rintro ⟨_, between, ⟨rfl, hstored⟩, rfl, rfl⟩
      exact ⟨rfl, hstored⟩
    · rintro ⟨rfl, hstored⟩
      exact ⟨_, _, ⟨rfl, hstored⟩, rfl, rfl⟩

/-- The tree of a run: that of its source behind one pass. -/
def highlighted (parser : Parser) (delimiter : Delimiter) (source : String) : Logged Node :=
  Pipeline.runParsed ⟨[delimiter.stage]⟩ parser source

/-- The output of a run is stored in a directory: the tree, and the page unless the run makes none. -/
def OutputStored (options : Options) (directory : Path) (tree page : String) (files later : FileSystem) : Prop :=
  ∃ between, Stored (directory.join treeFile) tree files between ∧
    if options.noPage then later = between else Stored (directory.join pageFile) page between later

/-- The records of a run about its output. -/
def outputRecords (options : Options) (directory : Path) : List Log.Record :=
  .treeWritten (directory.join treeFile).text ::
    if options.noPage then [] else [.pageWritten (directory.join pageFile).text]

/-- The last step of highlighting: the page is stored, unless the run makes none, and given. -/
theorem perform_storePage_eq_ok_iff {path : Path} {own page : String} :
    RunT.perform (do
        if !options.noPage then
          RunT.attempt (.notWritten path) (writeDocument path own)
          RunT.report [.pageWritten path.text]
        return own) records files = ((.ok page, more), later) ↔
      page = own ∧ (if options.noPage then later = files else Stored path own files later) ∧
        more = records ++ if options.noPage then [] else [.pageWritten path.text] := by
  cases options.noPage with
  | true =>
    -- No page is stored, so the step only gives it.
    simp only [Bool.not_true, Bool.false_eq_true, ↓reduceIte, RunT.perform_pure_eq_ok_iff, List.append_nil]
    tauto
  | false =>
    simp only [Bool.not_false, Bool.false_eq_true, ↓reduceIte, RunT.perform_bind_eq_ok_iff, RunT.perform_pure_eq_ok_iff,
      RunT.perform_attempt_eq_ok_iff, RunT.perform_report_eq_ok_iff, perform_writeDocument_eq_ok_iff, exists_const]
    constructor
    · -- The report comes behind the page that it is about.
      rintro ⟨_, written, ⟨rfl, hstored⟩, _, _, ⟨rfl, rfl⟩, rfl, rfl, rfl⟩
      exact ⟨rfl, hstored, rfl⟩
    · rintro ⟨rfl, hstored, rfl⟩
      exact ⟨_, _, ⟨rfl, hstored⟩, _, _, ⟨rfl, rfl⟩, rfl, rfl, rfl⟩

/-- Highlighting succeeds if each of its steps does. -/
theorem perform_highlight_eq_ok_iff {page : String} :
    RunT.perform (highlight parser environment options settings) records files = ((.ok page, more), later) ↔
      ∃ delimiter stored source, Delimiter.ofMarker settings.marker = .ok delimiter ∧
        SettingsStored environment options settings files stored ∧
        (∃ place, stored.find options.input = .ok (place, .text source)) ∧
        page = (options.renderer settings).render (highlighted parser delimiter source).value ∧
        OutputStored options (options.directory settings) (highlighted parser delimiter source).value.dumpIndented page
          stored later ∧
        more = records ++ settingsRecords environment options ++ [.highlighting delimiter.fence options.input.text] ++
          (highlighted parser delimiter source).records ++ outputRecords options (options.directory settings) := by
  unfold highlight
  -- A white space marker ends highlighting before anything else, so only one that makes a delimiter is left.
  cases hmarker : Delimiter.ofMarker settings.marker with
  | error error => simp [RunT.perform_throw_ne_ok]
  | ok delimiter =>
    simp only [RunT.perform_bind_eq_ok_iff, RunT.perform_pure_eq_ok_iff, RunT.perform_attempt_eq_ok_iff,
      RunT.perform_report_eq_ok_iff, perform_storeSettings_eq_ok_iff, perform_readDocument_eq_ok_iff,
      perform_writeDocument_eq_ok_iff, exists_const]
    -- Each step begins with the records and the files that the one before it left.
    constructor
    · rintro ⟨_, _, _, ⟨rfl, rfl, rfl⟩, _, _, ⟨rfl, hstored⟩, _, stored, ⟨rfl, rfl⟩, source, _, _, ⟨rfl, rfl, hread⟩, _, _,
        ⟨rfl, rfl⟩, _, _, ⟨rfl, htree⟩, _, written, ⟨rfl, rfl⟩, hlast⟩
      obtain ⟨rfl, hpage, rfl⟩ := perform_storePage_eq_ok_iff.mp hlast
      exact ⟨_, _, source, rfl, hstored, hread, rfl, ⟨written, htree, hpage⟩, by simp [outputRecords, highlighted]⟩
    · rintro ⟨_, stored, source, ⟨⟩, hstored, hread, rfl, ⟨written, htree, hpage⟩, rfl⟩
      refine ⟨delimiter, _, _, ⟨rfl, rfl, rfl⟩, _, stored, ⟨rfl, hstored⟩, _, _, ⟨rfl, rfl⟩, source, _, stored,
        ⟨rfl, rfl, hread⟩, _, _, ⟨rfl, rfl⟩, _, written, ⟨rfl, htree⟩, _, _, ⟨rfl, rfl⟩, ?_⟩
      exact perform_storePage_eq_ok_iff.mpr ⟨rfl, hpage, by simp [outputRecords, highlighted]⟩

/-! ## A whole run -/

/-- What a run gives on a file system, with all its records, and the file system that it leaves. -/
def runOn (parser : Parser) (files : FileSystem) (environment : Environment) (options : Options) :
    (Except Failure String × List Log.Record) × FileSystem :=
  Id.run (StateT.run (runWith parser environment options) files)

/-- A run succeeds if its settings are loaded and the highlighting with them succeeds. -/
theorem runOn_eq_ok_iff {page : String} :
    runOn parser files environment options = ((.ok page, more), later) ↔
      ∃ loaded, SettingsLoaded environment options files loaded ∧
        RunT.perform (highlight parser environment options (options.override loaded)) [] files =
          ((.ok page, more), later) := by
  have heq : runOn parser files environment options =
      RunT.perform (do
        highlight parser environment options (options.override (← loadSettings environment options))) [] files :=
    rfl
  rw [heq, RunT.perform_bind_eq_ok_iff]
  simp only [perform_loadSettings_eq_ok_iff]
  constructor
  · -- Loading begins without records and leaves none, nor does it change a file.
    rintro ⟨loaded, _, _, ⟨rfl, rfl, hloaded⟩, hhighlight⟩
    exact ⟨loaded, hloaded, hhighlight⟩
  · rintro ⟨loaded, hloaded, hhighlight⟩
    exact ⟨loaded, _, _, ⟨rfl, rfl, hloaded⟩, hhighlight⟩

end

end Highlighter
