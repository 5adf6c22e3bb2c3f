import Highlighter.Proofs.CommandLine.Failures
import Highlighter.Proofs.CommandLine.Rerun
import Highlighter.Proofs.Files.Absence
import Mathlib.Logic.Relation

/-!
# Runs one after the other

A run may store settings that later runs load. Main statement: where nothing was, runs leave nothing or settings that can
be loaded, whatever they are told and whether or not they succeed, as long as they do not have their output there. A run
whose marker is white space changes nothing at all.

What stands at a path is an invariant of runs. Each step of a run fills places or creates directories, and the only text
that comes to the path is that of settings whose marker has been checked.
-/

namespace Highlighter

open FileSystem

variable {environment : Environment} {options : Options} {settings : Settings} {files later : FileSystem} {path : Path}

/-! ## What a run comes to write -/

/-- A run comes to store its settings at a path. -/
def StoresSettings (environment : Environment) (options : Options) (files : FileSystem) (path : Path) : Prop :=
  ∃ settings delimiter, Effective environment options files settings ∧
    Delimiter.ofMarker settings.marker = .ok delimiter ∧ options.storeSettings = true ∧
      path = options.settingsPath environment

/-- A run comes to store some output at a path. -/
def StoresOutput (environment : Environment) (options : Options) (files : FileSystem) (path : Path) : Prop :=
  ∃ settings delimiter stored source, Effective environment options files settings ∧
    Prepared environment options settings files delimiter stored source ∧
      path ∈ options.outputs (options.directory settings)

/-- A run spares a path: it has no output there, and the path is not that of a directory above what it comes to store. It
may store its settings at the path. -/
structure Spares (environment : Environment) (options : Options) (files : FileSystem) (path : Path) : Prop where
  output : ∀ output, StoresOutput environment options files output → files.placeOf output ≠ files.placeOf path
  above : ∀ written, StoresSettings environment options files written ∨ StoresOutput environment options files written →
    ∀ directory, directory.IsAbove written → files.placeOf directory ≠ files.placeOf path

/-! ## What stands at a path -/

/-- A path may lead to settings that can be loaded, and to nothing else. -/
def Loadable (files : FileSystem) (path : Path) : Prop :=
  ∀ place, files.prospect? path = some place → files.entry? place = none ∨
    ∃ settings : Settings, Unicode.isWhiteSpace settings.marker = false ∧ files.entry? place = some (.text settings.write)

namespace Loadable

theorem of_absent (h : files.Absent path) : Loadable files path := fun place hprospect => .inl (h place hprospect)

/-- There is nothing, or settings are loaded in any environment, and their marker is accepted. -/
theorem load (h : Loadable files path) :
    files.isPresent path = false ∨ ∀ environment, ∃ settings delimiter,
      FileSystem.perform (Settings.load environment path) files = (.ok (some settings), files) ∧
        Delimiter.ofMarker settings.marker = .ok delimiter := by
  cases hpresent : files.isPresent path with
  -- Nothing is there.
  | false => exact .inl rfl
  | true =>
    right
    intro environment
    -- Something is there, so it is at the place that the path leads to, where only such settings may be.
    obtain ⟨⟨place, entry⟩, hfind⟩ := isPresent_iff.mp hpresent
    obtain ⟨-, -, hentry⟩ := find_eq_ok_iff.mp hfind
    obtain hnone | ⟨settings, hmarker, hsettings⟩ := h place (prospect?_of_find hfind)
    · simp [hnone] at hentry
    · obtain rfl : entry = .text settings.write := Option.some.inj (hentry.symm.trans hsettings)
      exact ⟨_, ⟨settings.marker, hmarker⟩, Settings.perform_load_of_find environment hmarker hfind,
        Delimiter.ofMarker_eq_ok_iff.mpr rfl⟩

/-- A change keeps what stands at a path loadable if it puts nothing there but settings with a checked marker. -/
theorem of_changes (h : Loadable files path) {filled : List Place} {created : Path → Prop}
    (hchanges : Changes filled created files later)
    (hfilled : files.placeOf path ∈ filled → ∃ settings : Settings, Unicode.isWhiteSpace settings.marker = false ∧
      later.entry? (files.placeOf path) = some (.text settings.write))
    (hcreated : ∀ directory, created directory → files.placeOf directory ≠ files.placeOf path) : Loadable later path := by
  intro place hprospect
  have hbefore := hchanges.prospect? hprospect
  obtain rfl := placeOf_of_prospect? hbefore
  -- A place is filled, or it holds what it held, or a directory is new there.
  by_cases hmem : files.placeOf path ∈ filled
  · exact .inr (hfilled hmem)
  · rcases hchanges.entry _ hmem with hsame | ⟨-, -, directory, hdirectory, heq⟩
    · rw [hsame]
      exact h _ hbefore
    · exact absurd heq (hcreated directory hdirectory)

end Loadable

/-! ## One run -/

/-- Storing the settings of a run fills their place, if they are stored at all. -/
theorem SettingsStored.changes (h : SettingsStored environment options settings files later) :
    Changes (if options.storeSettings then [files.placeOf (options.settingsPath environment)] else [])
        (fun directory => options.storeSettings = true ∧ directory.IsAbove (options.settingsPath environment)) files later ∧
      (options.storeSettings = true →
        later.entry? (files.placeOf (options.settingsPath environment)) = some (.text settings.write)) := by
  unfold SettingsStored at h
  cases hstore : options.storeSettings with
  | false =>
    -- No settings are stored, and nothing changes.
    obtain rfl : later = files := by simpa [hstore] using h
    exact ⟨Changes.refl _ _, nofun⟩
  | true =>
    rw [hstore, if_pos rfl] at h
    obtain ⟨hchanges, hentry⟩ := h.changes
    exact ⟨hchanges.mono fun _ habove => ⟨rfl, habove⟩, fun _ => hentry⟩

namespace Loadable

variable (h : Loadable files path) (hspares : Spares environment options files path)
  (heffective : Effective environment options files settings)
include h hspares heffective

/-- Once the marker is checked, the settings of a run can be stored at the path. -/
theorem of_settingsStored {delimiter : Delimiter} (hmarker : Delimiter.ofMarker settings.marker = .ok delimiter)
    (hstored : SettingsStored environment options settings files later) : Loadable later path := by
  obtain ⟨hchanges, hentry⟩ := hstored.changes
  refine h.of_changes hchanges (fun hmem => ?_) fun directory hcreated => ?_
  · cases hstore : options.storeSettings with
    | false => simp [hstore] at hmem
    | true =>
      -- The path is that of the settings, and they have the marker of a delimiter.
      have hplace : files.placeOf path = files.placeOf (options.settingsPath environment) := by simpa [hstore] using hmem
      have hvisible := delimiter.marker_visible
      rw [Delimiter.ofMarker_eq_ok_iff.mp hmarker] at hvisible
      exact ⟨settings, hvisible, hplace ▸ hentry hstore⟩
  · exact hspares.above _ (.inl ⟨settings, delimiter, heffective, hmarker, hcreated.1, rfl⟩) directory hcreated.2

/-- The output of a run leaves the path alone, as far as it is stored. -/
theorem of_output {delimiter : Delimiter} {stored : FileSystem} {source : String}
    (hprepared : Prepared environment options settings files delimiter stored source) {filled : List Place}
    {created : Path → Prop} (hchanges : Changes filled created stored later)
    (hfilled : ∀ place ∈ filled, ∃ output ∈ options.outputs (options.directory settings), stored.placeOf output = place)
    (hcreated : ∀ directory, created directory →
      ∃ output ∈ options.outputs (options.directory settings), directory.IsAbove output) : Loadable later path := by
  -- The settings are stored before the output, and storing them does not change which place a path names.
  have hloadable := h.of_settingsStored hspares heffective hprepared.marker hprepared.settings_stored
  have hplace := hprepared.settings_stored.changes.1.placeOf
  refine hloadable.of_changes hchanges (fun hmem => ?_) fun directory habove => ?_
  · obtain ⟨output, houtput, heq⟩ := hfilled _ hmem
    rw [hplace, hplace] at heq
    exact absurd heq (hspares.output output ⟨settings, delimiter, stored, source, heffective, hprepared, houtput⟩)
  · obtain ⟨output, houtput, habove⟩ := hcreated directory habove
    rw [hplace, hplace]
    exact hspares.above output (.inr ⟨settings, delimiter, stored, source, heffective, hprepared, houtput⟩) directory habove

/-- Highlighting that fails leaves the path as it should be, wherever it fails. -/
theorem of_highlightFails {parser : Parser} {failure : Failure}
    (hfails : HighlightFails parser environment options settings files failure later) : Loadable later path := by
  cases hfails with
  | marker hmarker => exact h
  | settingsNotStored hmarker hstore hsave =>
    exact h.of_changes (Settings.changes_of_perform_save hsave) nofun
      (hspares.above _ (.inl ⟨settings, _, heffective, hmarker, hstore, rfl⟩))
  | notRead hmarker hstored hread => exact h.of_settingsStored hspares heffective hmarker hstored
  | treeNotWritten hprepared hwrite =>
    exact h.of_output hspares heffective hprepared (changes_of_perform_writeDocument hwrite) nofun
      fun directory habove => ⟨_, List.mem_cons_self, habove⟩
  | pageNotWritten hprepared htree hpage hwrite =>
    -- The tree is stored, and then there are at most directories above the page.
    have hchanges := htree.changes.1.trans (changes_of_perform_writeDocument hwrite)
    refine h.of_output hspares heffective hprepared hchanges (fun place hplace => ?_) fun directory hcreated => ?_
    · obtain rfl : place = _ := by simpa using hplace
      exact ⟨_, List.mem_cons_self, rfl⟩
    · rcases hcreated with habove | habove
      · exact ⟨_, List.mem_cons_self, habove⟩
      · exact ⟨_, mem_outputs_iff.mpr (.inr ⟨hpage, rfl⟩), habove⟩

omit heffective in
/-- A run that spares a path leaves nothing there but what was there or settings with a checked marker. -/
theorem of_run (parser : Parser) : Loadable (runOn parser files environment options).2 path := by
  rcases hrun : runOn parser files environment options with ⟨⟨failure | page, records⟩, later⟩
  · cases runOn_eq_error_iff.mp ⟨records, hrun⟩ with
    -- The settings were not loaded, so the run ended before it wrote anything.
    | settings | settingsMissing => exact h
    | highlight heffective hfails => exact h.of_highlightFails hspares heffective hfails
  · obtain ⟨loaded, hloaded, hhighlight⟩ := runOn_eq_ok_iff.mp hrun
    obtain ⟨delimiter, stored, source, hmarker, hstored, hread, -, houtput, -⟩ :=
      perform_highlight_eq_ok_iff.mp hhighlight
    exact h.of_output hspares ⟨loaded, hloaded, rfl⟩ ⟨hmarker, hstored, hread⟩ houtput.changes
      (fun place hplace => List.mem_map.mp hplace) fun directory hcreated => hcreated

end Loadable

/-! ## A run with a blank marker -/

/-- The marker of a run: that of its options, or else the one that its settings file says, or else the usual one. -/
inductive HasMarker (environment : Environment) (options : Options) (files : FileSystem) : Char → Prop where
  | option {marker : Char} (hoption : options.marker = some marker) : HasMarker environment options files marker
  | file {text : String} {settings : Settings} (hoption : options.marker = none)
      (htext : files.readText (options.settingsPath environment) = .ok text) (hread : Settings.read text = .ok settings) :
      HasMarker environment options files settings.marker
  | usual (hoption : options.marker = none) (habsent : files.isPresent (options.settingsPath environment) = false) :
      HasMarker environment options files Settings.standard.marker

/-- Without a marker in the options it is the one that was loaded. -/
theorem Options.marker_override (settings : Settings) (h : options.marker = none) :
    (options.override settings).marker = settings.marker := by
  simp [override, h]

/-- The settings of a run have its marker. -/
theorem Effective.marker_eq (h : Effective environment options files settings) {marker : Char}
    (hmarker : HasMarker environment options files marker) : settings.marker = marker := by
  obtain ⟨loaded, ⟨stored, hload, hstored⟩, rfl⟩ := h
  cases hmarker with
  -- An option counts more than what is loaded.
  | option hoption => simp [Options.override, hoption]
  | @file text own hoption htext hread =>
    -- There is a file, so what was loaded is what is read of it, not the usual settings.
    rw [Options.marker_override loaded hoption]
    obtain rfl | ⟨rfl, -, -⟩ := hstored
    · obtain ⟨-, _, _, htext', hread', -, rfl⟩ := Settings.perform_load_eq_some_iff.mp hload
      obtain rfl := Except.ok.inj (htext.symm.trans htext')
      obtain rfl := Except.ok.inj (hread.symm.trans hread')
      rfl
    · obtain ⟨-, habsent⟩ := Settings.perform_load_eq_none_iff.mp hload
      simp [isPresent_of_readText htext] at habsent
  | usual hoption habsent =>
    -- There is no file to load from, so the usual settings were taken.
    rw [Options.marker_override loaded hoption]
    obtain rfl | ⟨-, -, rfl⟩ := hstored
    · obtain ⟨-, _, _, htext, -⟩ := Settings.perform_load_eq_some_iff.mp hload
      simp [isPresent_of_readText htext] at habsent
    · rfl

/-- A run whose marker is white space fails and changes nothing. -/
theorem exists_runOn_of_blank (parser : Parser) {marker : Char} (hmarker : HasMarker environment options files marker)
    (hblank : Unicode.isWhiteSpace marker = true) :
    ∃ failure records, runOn parser files environment options = ((.error failure, records), files) := by
  -- No step behind the check of the marker is made, and the steps before it change nothing.
  have hrefused : ∀ settings delimiter, Effective environment options files settings →
      Delimiter.ofMarker settings.marker ≠ .ok delimiter := by
    intro settings delimiter heffective hdelimiter
    have hvisible := delimiter.marker_visible
    rw [Delimiter.ofMarker_eq_ok_iff.mp hdelimiter, heffective.marker_eq hmarker, hblank] at hvisible
    contradiction
  rcases hrun : runOn parser files environment options with ⟨⟨failure | page, records⟩, later⟩
  · refine ⟨failure, records, ?_⟩
    cases runOn_eq_error_iff.mp ⟨records, hrun⟩ with
    | settings | settingsMissing => rfl
    | highlight heffective hfails =>
      cases hfails with
      | marker => rfl
      | settingsNotStored hdelimiter | notRead hdelimiter => exact absurd hdelimiter (hrefused _ _ heffective)
      | treeNotWritten hprepared | pageNotWritten hprepared => exact absurd hprepared.marker (hrefused _ _ heffective)
  · obtain ⟨loaded, hloaded, hhighlight⟩ := runOn_eq_ok_iff.mp hrun
    obtain ⟨delimiter, stored, source, hdelimiter, -⟩ := perform_highlight_eq_ok_iff.mp hhighlight
    exact absurd hdelimiter (hrefused _ _ ⟨loaded, hloaded, rfl⟩)

/-! ## All runs -/

/-- A run leads from one file system to another one, and spares a path. -/
def SparingRun (parser : Parser) (path : Path) (files later : FileSystem) : Prop :=
  ∃ environment options, Spares environment options files path ∧ later = (runOn parser files environment options).2

/-- What stands at a path stays loadable through all runs that spare it. -/
theorem Loadable.of_runs {parser : Parser} (h : Loadable files path)
    (hruns : Relation.ReflTransGen (SparingRun parser path) files later) : Loadable later path := by
  induction hruns with
  | refl => exact h
  | tail _ hrun ih =>
    obtain ⟨environment, options, hspares, rfl⟩ := hrun
    exact ih.of_run hspares parser

/-- **Runs leave settings that can be loaded, or nothing.** Where nothing is at a path or could come to be there with the
directories on its way, there is still nothing after any runs that spare the path, or there are settings that are loaded
in any environment, with a marker that is accepted. And a run whose marker is white space, wherever it comes from, fails
and changes nothing. -/
theorem loadable_of_runs (parser : Parser) :
    (∀ (files later : FileSystem) (path : Path), files.Absent path →
      Relation.ReflTransGen (SparingRun parser path) files later →
        later.isPresent path = false ∨ ∀ environment, ∃ settings delimiter,
          FileSystem.perform (Settings.load environment path) later = (.ok (some settings), later) ∧
            Delimiter.ofMarker settings.marker = .ok delimiter) ∧
      ∀ (files : FileSystem) (environment : Environment) (options : Options) (marker : Char),
        HasMarker environment options files marker → Unicode.isWhiteSpace marker = true →
          ∃ failure records, runOn parser files environment options = ((.error failure, records), files) := by
  constructor
  · intro files later path habsent hruns
    exact ((Loadable.of_absent habsent).of_runs hruns).load
  · intro files environment options marker hmarker hblank
    exact exists_runOn_of_blank parser hmarker hblank

/-! ## Runs with a directory for the output -/

/-- A place is apart from that of a path, and so are the directories above it. -/
def Apart (files : FileSystem) (path other : Path) : Prop :=
  files.placeOf other ≠ files.placeOf path ∧ ∀ above, above.IsAbove other → files.placeOf above ≠ files.placeOf path

/-- A run that is told where its output goes spares a path if the output and the directories above the settings are apart. -/
theorem spares_of_outputDirectory {directory : Path} (hdirectory : options.outputDirectory = some directory)
    (hsettings : options.storeSettings = true → ∀ above, above.IsAbove (options.settingsPath environment) →
      files.placeOf above ≠ files.placeOf path)
    (htree : Apart files path (directory.join treeFile)) (hpage : Apart files path (directory.join pageFile)) :
    Spares environment options files path := by
  have houtput : ∀ output, StoresOutput environment options files output → Apart files path output := by
    -- The options name the directory, so the settings that are loaded do not matter.
    rintro output ⟨_, -, -, -, ⟨loaded, -, rfl⟩, -, hmem⟩
    have heq : options.directory (options.override loaded) = directory := by
      simp [Options.directory, Options.override, hdirectory]
    rw [heq] at hmem
    rcases mem_outputs_iff.mp hmem with rfl | ⟨-, rfl⟩
    · exact htree
    · exact hpage
  constructor
  · exact fun output hstores => (houtput output hstores).1
  · rintro written (⟨_, -, -, -, hstore, rfl⟩ | hstores)
    · exact hsettings hstore
    · exact (houtput written hstores).2

/-- Options with a blank marker. -/
def blankOptions : Options := { tildeOptions with marker := some ' ' }

/-- The run with its output in the directory with a tilde stores its settings beside it, so they can be loaded afterwards.
With a blank marker it changes nothing. -/
theorem loadable_of_runs_notes :
    ∃ later, notes.Absent ⟨"c.toml"⟩ ∧ Relation.ReflTransGen (SparingRun Markdown.events ⟨"c.toml"⟩) notes later ∧
      (∀ environment, ∃ settings delimiter,
        FileSystem.perform (Settings.load environment ⟨"c.toml"⟩) later = (.ok (some settings), later) ∧
          Delimiter.ofMarker settings.marker = .ok delimiter) ∧
      HasMarker ⟨[], none⟩ blankOptions notes ' ' ∧ Unicode.isWhiteSpace ' ' = true ∧
      ∃ failure records, runOn Markdown.events notes ⟨[], none⟩ blankOptions = ((.error failure, records), notes) := by
  obtain ⟨page, records, later, hrun, hsettings, hinput, -⟩ := exists_runOn_notes Markdown.events ⟨[], none⟩
  obtain ⟨loaded, -, -, delimiter, stored, source, -, ⟨place, hfind⟩, -⟩ :=
    exists_of_runOn_eq_ok rfl rfl hrun hsettings hinput
  -- Each entry stands in the root, so there can be no way through something missing.
  have hrooted : notes.Rooted := by
    intro place name hentry
    cases place with
    | nil => rfl
    | cons first rest =>
      have hlong : (rest ++ [name]).isEmpty = false := by simp
      simp [notes, entry?, List.lookup_cons, hlong] at hentry
  have habsent : notes.Absent ⟨"c.toml"⟩ := absent_of_isPresent_eq_false hrooted (by decide) (by decide)
  -- Every directory that the run may make stands in another place than the settings.
  have hspares : Spares ⟨[], none⟩ tildeOptions notes ⟨"c.toml"⟩ := by
    have hdirectory : ∀ above, above.IsAbove ⟨"~"⟩ → notes.placeOf above ≠ notes.placeOf ⟨"c.toml"⟩ :=
      Path.forall_isAbove_of_current (by decide) (by decide)
    have hbeside : ∀ above, above.IsAbove ⟨"c.toml"⟩ → notes.placeOf above ≠ notes.placeOf ⟨"c.toml"⟩ :=
      Path.forall_isAbove_of_current (by decide) (by decide)
    exact spares_of_outputDirectory rfl (fun _ => hbeside)
      ⟨by decide, Path.forall_isAbove (by decide) (by decide) hdirectory⟩
      ⟨by decide, Path.forall_isAbove (by decide) (by decide) hdirectory⟩
  have hruns : Relation.ReflTransGen (SparingRun Markdown.events ⟨"c.toml"⟩) notes later :=
    .single ⟨⟨[], none⟩, tildeOptions, hspares, by rw [hrun]⟩
  have hpresent : later.isPresent ⟨"c.toml"⟩ = true := isPresent_iff.mpr ⟨_, hfind⟩
  have hload := ((loadable_of_runs _).1 notes later ⟨"c.toml"⟩ habsent hruns).resolve_left (by simp [hpresent])
  have hblank : HasMarker ⟨[], none⟩ blankOptions notes ' ' := .option rfl
  exact ⟨later, habsent, hruns, hload, hblank, by decide, (loadable_of_runs _).2 notes _ _ ' ' hblank (by decide)⟩

/-- Two documents, of which one is no document of settings. -/
def drafts : FileSystem := ⟨[(["a.md"], .text "["), (["b.md"], .text "x")], []⟩

/-- The output goes to a directory that is not there yet. -/
def apartOptions : Options := ⟨⟨"b.md"⟩, some ⟨"d"⟩, none, none, none, false, false, false⟩

/-- The run creates the directory, and leaves the other document as it is. -/
theorem exists_runOn_drafts :
    ∃ page records later, runOn Markdown.events drafts ⟨[], none⟩ apartOptions = ((.ok page, records), later) ∧
      later.find ⟨"d/../a.md"⟩ = .ok (["a.md"], .text "[") := by
  let settings := apartOptions.override .standard
  let tree := (highlighted Markdown.events .standard "x").value
  let page := (apartOptions.renderer settings).render tree
  let files₁ := drafts.put ["d"] .directory
  let files₂ := files₁.put ["d", "mdast-output.json"] (.text tree.dumpIndented)
  let files₃ := files₂.put ["d", "html-output.html"] (.text page)
  have hloaded : SettingsLoaded ⟨[], none⟩ apartOptions drafts .standard := .standard (by decide) (.inl rfl)
  -- The directory is missing, and the tree is stored by creating it.
  have htree : Stored ⟨"d/mdast-output.json"⟩ tree.dumpIndented drafts files₂ := by
    refine ⟨files₁, ?_, rfl⟩
    have hparent : Path.parent? ⟨"d/mdast-output.json"⟩ = some ⟨"d"⟩ := by decide
    rw [ParentCreated, hparent]
    exact createDirectories_of_ensureDirectory (by decide) rfl
  have hpage : Stored ⟨"d/html-output.html"⟩ page files₂ files₃ :=
    stored_of_isDirectory ⟨"d"⟩ (by decide) (fun _ => rfl) rfl (by decide) (by decide)
  have houtput : OutputStored apartOptions ⟨"d"⟩ tree.dumpIndented page drafts files₃ := ⟨files₂, htree, hpage⟩
  have hrun : runOn Markdown.events drafts ⟨[], none⟩ apartOptions = ((.ok page, _), files₃) :=
    runOn_eq_ok_iff.mpr ⟨_, hloaded, perform_highlight_eq_ok_iff.mpr
      ⟨.standard, drafts, "x", rfl, rfl, ⟨["b.md"], rfl⟩, rfl, houtput, rfl⟩⟩
  exact ⟨page, _, files₃, hrun, rfl⟩

/-- A path that leads to nothing may lead back through that directory, and then to the other document. So it is not enough
that there is nothing at a path. -/
theorem not_loadable_of_runs :
    ¬∀ (files later : FileSystem) (path : Path), files.isPresent path = false →
      Relation.ReflTransGen (SparingRun Markdown.events path) files later →
        later.isPresent path = false ∨ ∀ environment, ∃ settings delimiter,
          FileSystem.perform (Settings.load environment path) later = (.ok (some settings), later) ∧
            Delimiter.ofMarker settings.marker = .ok delimiter := by
  intro hall
  obtain ⟨page, records, later, hrun, hfind⟩ := exists_runOn_drafts
  have hspares : Spares ⟨[], none⟩ apartOptions drafts ⟨"d/../a.md"⟩ := by
    have hdirectory : ∀ above, above.IsAbove ⟨"d"⟩ → drafts.placeOf above ≠ drafts.placeOf ⟨"d/../a.md"⟩ :=
      Path.forall_isAbove_of_current (by decide) (by decide)
    exact spares_of_outputDirectory rfl nofun
      ⟨by decide, Path.forall_isAbove (by decide) (by decide) hdirectory⟩
      ⟨by decide, Path.forall_isAbove (by decide) (by decide) hdirectory⟩
  have hruns : Relation.ReflTransGen (SparingRun Markdown.events ⟨"d/../a.md"⟩) drafts later :=
    .single ⟨⟨[], none⟩, apartOptions, hspares, by rw [hrun]⟩
  obtain habsent | hload := hall drafts later ⟨"d/../a.md"⟩ (by decide) hruns
  · -- Behind the run the path leads to the other document.
    simp [isPresent_iff.mpr ⟨_, hfind⟩] at habsent
  · -- The other document is no settings, as it has no closing bracket.
    obtain ⟨settings, -, hperform, -⟩ := hload ⟨[], none⟩
    obtain ⟨-, text, own, htext, hread, -⟩ := Settings.perform_load_eq_some_iff.mp hperform
    obtain rfl : "[" = text := Except.ok.inj ((readText_of_find hfind).symm.trans htext)
    have hrefused : Settings.read "[" = .error .noDocument := by cbv
    rw [hrefused] at hread
    contradiction

end Highlighter
