import Highlighter.Proofs.CommandLine.Output
import Highlighter.Proofs.Pass.Reports

/-!
# Running again from stored settings

A run may store the settings that it uses, and a later run may load them instead of being told again. Main statement: the
later run then gives the same page and writes the same files exactly if expansion leaves the paths of the output alone.

Settings are stored as they were used and are expanded when they are loaded. So a directory with a tilde in front or with
a dollar sign, as a run was told it or as expansion made it, is another directory for the later run.
-/

namespace Highlighter

open FileSystem

/-! ## Paths of the output -/

/-- The path that a record says some output was written to. -/
def Log.Record.outputPath? : Log.Record → Option Path
  | .treeWritten path => some ⟨path⟩
  | .pageWritten path => some ⟨path⟩
  | _ => none

/-- The paths of the output, as a run reports them. -/
def outputPaths (records : List Log.Record) : List Path := records.filterMap Log.Record.outputPath?

section

variable {environment : Environment} {options : Options} {settings : Settings}

theorem outputPaths_of_quiet {records : List Log.Record} (h : Quiet records) : outputPaths records = [] := by
  apply List.filterMap_eq_nil_iff.mpr
  intro record hrecord
  have hlevel := h record hrecord
  -- The records that name an output are information, and no other record does.
  cases record with
  | treeWritten path | pageWritten path => exact absurd rfl hlevel
  | _ => rfl

/-- Reading and highlighting write nothing, so what a run reports to be written are its outputs. -/
theorem outputPaths_highlight (parser : Parser) (delimiter : Delimiter) (source fence path : String) (directory : Path) :
    outputPaths ([] ++ settingsRecords environment options ++ [.highlighting fence path] ++
      (highlighted parser delimiter source).records ++ outputRecords options directory) = options.outputs directory := by
  -- Only the output itself is reported as written: the pass is quiet, and the settings have a record of another form.
  have hquiet : (highlighted parser delimiter source).records.filterMap Log.Record.outputPath? = [] :=
    outputPaths_of_quiet (delimiter.quiet_runParsed parser source)
  have hsettings : (settingsRecords environment options).filterMap Log.Record.outputPath? = [] := by
    rw [settingsRecords]
    split <;> rfl
  have houtput : (outputRecords options directory).filterMap Log.Record.outputPath? = options.outputs directory := by
    rw [outputRecords, Options.outputs]
    split <;> rfl
  rw [outputPaths]
  simp only [List.filterMap_append, hquiet, hsettings, houtput, List.nil_append, List.append_nil]
  rfl

/-- The path of a name in a directory is the name behind a text that only the directory decides. -/
theorem Path.exists_join_eq (path : Path) : ∃ front, ∀ name, path.join name = ⟨front ++ name⟩ := by
  unfold join
  split
  · exact ⟨"", fun name => by simp⟩
  · exact ⟨path.text, fun name => rfl⟩
  · exact ⟨path.text ++ "/", fun name => rfl⟩

theorem Path.join_eq_join {path other : Path} {name : String} (h : path.join name = other.join name) (file : String) :
    path.join file = other.join file := by
  obtain ⟨front, hfront⟩ := path.exists_join_eq
  obtain ⟨start, hstart⟩ := other.exists_join_eq
  rw [hfront, hstart, Path.mk.injEq, ← String.toList_inj, String.toList_append, String.toList_append,
    List.append_cancel_right_eq, String.toList_inj] at h
  rw [hfront, hstart, h]

theorem outputs_eq_outputs_iff {directory other : Path} :
    options.outputs directory = options.outputs other ↔ directory.join treeFile = other.join treeFile := by
  constructor
  · exact fun h => (List.cons.inj h).1
  · intro h
    rw [Options.outputs, Options.outputs, h, Path.join_eq_join h pageFile]

/-- Expansion leaves the paths of the output alone if it leaves that of the tree in the directory of the settings alone. -/
theorem outputs_expand_eq_iff :
    options.outputs (options.directory (settings.expand environment)) = options.outputs (options.directory settings) ↔
      ∀ directory, settings.outputDirectory = some directory →
        ∀ expanded, Expansion.expand? environment directory.text = some expanded →
          Path.join ⟨expanded⟩ treeFile = directory.join treeFile := by
  rw [outputs_eq_outputs_iff]
  unfold Options.directory Settings.expand
  cases settings.outputDirectory with
  | none => simp
  | some directory => cases hexpand : Expansion.expand? environment directory.text <;> simp [hexpand]

end

/-! ## Storing the output again -/

namespace OutputStored

variable {options : Options} {directory : Path} {tree page : String} {files later : FileSystem}

/-- Storing the output changes no places but those of the output. -/
theorem keeps (h : OutputStored options directory tree page files later) :
    ∃ places, Keeps places files later ∧
      ∀ place ∈ places, ∃ output ∈ options.outputs directory, ∃ text, later.find output = .ok (place, .text text) := by
  refine ⟨_, h.changes.keeps, fun place hplace => ?_⟩
  obtain ⟨output, houtput, rfl⟩ := List.mem_map.mp hplace
  rcases mem_outputs_iff.mp houtput with rfl | ⟨hno, rfl⟩
  · rw [placeOf_join _ _ isProper_treeFile]
    exact ⟨_, houtput, tree, h.find_tree⟩
  · rw [placeOf_join _ _ isProper_pageFile]
    exact ⟨_, houtput, page, h.find_page hno⟩

/-- What a path leads to stays unless the output is stored there. -/
theorem find (h : OutputStored options directory tree page files later) {path : Path}
    (hapart : ∀ output ∈ options.outputs directory, ¬later.SamePlace output path) {place : Place} {entry : Entry}
    (hfind : files.find path = .ok (place, entry)) : later.find path = .ok (place, entry) := by
  obtain ⟨places, hkeeps, hplaces⟩ := h.keeps
  refine hkeeps.find hfind fun hmem => ?_
  -- The path still leads to its place, so an output there is at the same place.
  obtain ⟨output, houtput, text, hfindOutput⟩ := hplaces place hmem
  obtain ⟨-, -, hentry⟩ := find_eq_ok_iff.mp hfindOutput
  exact hapart output houtput ⟨_, hfindOutput, hkeeps.find_entry hfind hentry⟩

/-- The same output is stored again, and nothing changes. -/
theorem again (h : OutputStored options directory tree page files later) :
    ∃ last, OutputStored options directory tree page later last ∧ Same later last := by
  -- The tree is where it was written, so that writing it again puts an entry where the same entry is.
  obtain ⟨-, -, htreeEntry⟩ := find_eq_ok_iff.mp h.find_tree
  rw [← placeOf_join _ _ isProper_treeFile] at htreeEntry
  have hsameTree := Same.put (ne_nil_of_text htreeEntry) htreeEntry
  cases hno : options.noPage with
  | true =>
    obtain ⟨between, htree, hpage⟩ := h
    rw [hno, if_pos rfl] at hpage
    subst hpage
    have hagain := htree.again (Keeps.refl [] later) (by simp [htreeEntry]) tree
    exact ⟨_, ⟨_, hagain, by simp [hno]⟩, hsameTree⟩
  | false =>
    -- The page is there too, and it still is when the tree has been written again.
    obtain ⟨-, -, hpageEntry⟩ := find_eq_ok_iff.mp (h.find_page hno)
    obtain ⟨between, htree, hpage⟩ := h
    rw [hno, if_neg (by decide)] at hpage
    rw [← placeOf_join _ _ isProper_pageFile, ← htree.changes.1.placeOf] at hpageEntry
    have hpageKept := (hsameTree.entry _).trans hpageEntry
    have hsamePage := Same.put (ne_nil_of_text hpageKept) hpageKept
    have hagainTree := htree.again hpage.find.2 (by simp [htreeEntry]) tree
    have hagainPage := hpage.again hsameTree.keeps (by simp [hpageKept]) page
    exact ⟨_, ⟨_, hagainTree, by simpa [hno] using hagainPage⟩, hsameTree.trans hsamePage⟩

/-- Where the output is stored depends on its paths only. -/
theorem congr (h : OutputStored options directory tree page files later) {other : Path}
    (hsame : options.outputs other = options.outputs directory) : OutputStored options other tree page files later := by
  have hjoin := outputs_eq_outputs_iff.mp hsame
  rw [OutputStored, hjoin, Path.join_eq_join hjoin pageFile]
  exact h

end OutputStored

/-! ## The later run -/

/-- The options of a later run from the stored settings: it is told no settings, and stores none. -/
def Options.again (options : Options) : Options :=
  { options with outputDirectory := none, marker := none, style := none, storeSettings := false }

/-- A run gives a page, and writes its output to the given paths, each with the text that was there. -/
def Repeats (parser : Parser) (environment : Environment) (options : Options) (files : FileSystem) (page : String)
    (paths : List Path) : Prop :=
  ∃ records later, runOn parser files environment options = ((.ok page, records), later) ∧ outputPaths records = paths ∧
    ∀ output ∈ paths, later.readText output = files.readText output

section

variable {parser : Parser} {environment : Environment} {options : Options} {settings : Settings}
  {files later : FileSystem} {records : List Log.Record} {path : Path} {page : String}

/-- A run from stored settings uses them expanded. -/
theorem runOn_again_eq_ok_iff (hsettings : options.settingsFile = some path)
    (hmarker : Unicode.isWhiteSpace settings.marker = false) {place : Place}
    (hfind : files.find path = .ok (place, .text settings.write)) :
    runOn parser files environment options.again = ((.ok page, records), later) ↔
      RunT.perform (highlight parser environment options.again (settings.expand environment)) [] files =
        ((.ok page, records), later) := by
  have hpath : options.again.settingsPath environment = path := by simp [Options.settingsPath, Options.again, hsettings]
  -- The settings file is there, so nothing but its expanded settings can be loaded.
  have hloaded : ∀ loaded, SettingsLoaded environment options.again files loaded ↔
      loaded = settings.expand environment := by
    intro loaded
    rw [SettingsLoaded, hpath, Settings.perform_load_of_find environment hmarker hfind]
    constructor
    · rintro ⟨stored, hstored, hfrom⟩
      obtain rfl : some (settings.expand environment) = stored := Except.ok.inj (Prod.mk.inj hstored).1
      rcases hfrom with hsome | ⟨hnone, -⟩
      · exact (Option.some.inj hsome).symm
      · contradiction
    · rintro rfl
      exact ⟨_, rfl, .inl rfl⟩
  -- A run that is told no settings overrides none.
  have hoverride : options.again.override (settings.expand environment) = settings.expand environment := by
    simp [Options.override, Options.again]
  rw [runOn_eq_ok_iff]
  simp only [hloaded, exists_eq_left, hoverride]

/-- A run from stored settings has its output in their directory, expanded. -/
theorem outputs_of_repeats (hsettings : options.settingsFile = some path)
    (hmarker : Unicode.isWhiteSpace settings.marker = false) {place : Place}
    (hfind : files.find path = .ok (place, .text settings.write)) {paths : List Path}
    (h : Repeats parser environment options.again files page paths) :
    options.outputs (options.directory (settings.expand environment)) = paths := by
  obtain ⟨again, last, hrun, rfl, -⟩ := h
  obtain ⟨delimiter, stored, source, -, -, -, -, -, rfl⟩ :=
    perform_highlight_eq_ok_iff.mp ((runOn_again_eq_ok_iff hsettings hmarker hfind).mp hrun)
  rw [outputPaths_highlight]
  rfl

/-- A run that stored its settings left them where they are loaded from, and its document where it is read. -/
theorem exists_of_runOn_eq_ok (hsettings : options.settingsFile = some path) (hstore : options.storeSettings = true)
    (hrun : runOn parser files environment options = ((.ok page, records), later))
    (hsettingsApart : ∀ output ∈ outputPaths records, ¬later.SamePlace output path)
    (hinputApart : ∀ output ∈ outputPaths records, ¬later.SamePlace output options.input) :
    ∃ loaded, SettingsLoaded environment options files loaded ∧
      outputPaths records = options.outputs (options.directory (options.override loaded)) ∧
      ∃ delimiter stored source, delimiter.marker = (options.override loaded).marker ∧
        (∃ place, later.find path = .ok (place, .text (options.override loaded).write)) ∧
        (∃ place, later.find options.input = .ok (place, .text source)) ∧
        page = (options.renderer (options.override loaded)).render (highlighted parser delimiter source).value ∧
        OutputStored options (options.directory (options.override loaded))
          (highlighted parser delimiter source).value.dumpIndented page stored later := by
  obtain ⟨loaded, hloaded, hhighlight⟩ := runOn_eq_ok_iff.mp hrun
  obtain ⟨delimiter, stored, source, hdelimiter, hstored, ⟨inputPlace, hinput⟩, hpage, houtput, rfl⟩ :=
    perform_highlight_eq_ok_iff.mp hhighlight
  have hpath : options.settingsPath environment = path := by simp [Options.settingsPath, hsettings]
  -- The settings and the document are in their places before the output is stored, and the output does not touch them.
  rw [SettingsStored, if_pos hstore, hpath] at hstored
  obtain ⟨settingsPlace, hfind, -, -⟩ := hstored.spec
  rw [outputPaths_highlight] at hsettingsApart hinputApart ⊢
  exact ⟨loaded, hloaded, rfl, delimiter, stored, source, Delimiter.ofMarker_eq_ok_iff.mp hdelimiter,
    ⟨settingsPlace, houtput.find hsettingsApart hfind⟩, ⟨inputPlace, houtput.find hinputApart hinput⟩, hpage, houtput⟩

/-- **A run from stored settings is the same exactly if expansion leaves the output where it is.** After a run that stored
its settings, with the document and the settings apart from the output, the settings that it used are in their file. A
later run from them succeeds, gives the same page, and has its output at the same paths with the same texts, if and only if
the expansion of their directory does not change the path of the tree. -/
theorem repeats_iff (hsettings : options.settingsFile = some path) (hstore : options.storeSettings = true)
    (hrun : runOn parser files environment options = ((.ok page, records), later))
    (hsettingsApart : ∀ output ∈ outputPaths records, ¬later.SamePlace output path)
    (hinputApart : ∀ output ∈ outputPaths records, ¬later.SamePlace output options.input) :
    ∃ loaded settings, SettingsLoaded environment options files loaded ∧ settings = options.override loaded ∧
      later.readText path = .ok settings.write ∧
      (Repeats parser environment options.again later page (outputPaths records) ↔
        ∀ directory, settings.outputDirectory = some directory →
          ∀ expanded, Expansion.expand? environment directory.text = some expanded →
            Path.join ⟨expanded⟩ treeFile = directory.join treeFile) := by
  obtain ⟨loaded, hloaded, hpaths, delimiter, stored, source, hmarker, ⟨settingsPlace, hfind⟩, hinput, hpage, houtput⟩ :=
    exists_of_runOn_eq_ok hsettings hstore hrun hsettingsApart hinputApart
  have hvisible : Unicode.isWhiteSpace (options.override loaded).marker = false := hmarker ▸ delimiter.marker_visible
  refine ⟨loaded, _, hloaded, rfl, readText_of_find hfind, ?_⟩
  rw [← outputs_expand_eq_iff, hpaths]
  constructor
  · exact outputs_of_repeats hsettings hvisible hfind
  · intro hsame
    -- What the first run read is still there, and what it wrote is written again, so each of its steps is made once more.
    obtain ⟨last, hstoredAgain, hfiles⟩ := houtput.again
    refine ⟨_, last, (runOn_again_eq_ok_iff hsettings hvisible hfind).mpr (perform_highlight_eq_ok_iff.mpr
      ⟨delimiter, later, source, Delimiter.ofMarker_eq_ok_iff.mpr hmarker, rfl, hinput, hpage, hstoredAgain.congr hsame,
        rfl⟩), ?_, fun output _ => hfiles.readText output⟩
    rw [outputPaths_highlight]
    exact hsame

end

/-! ## A directory with a tilde -/

/-- A document beside a directory with the name that stands for the home directory. -/
def notes : FileSystem := ⟨[(["a.md"], .text "a !!b!! c"), (["~"], .directory)], []⟩

/-- The output goes to the directory, and the settings of the run are stored. -/
def tildeOptions : Options := ⟨⟨"a.md"⟩, some ⟨"~"⟩, some ⟨"c.toml"⟩, none, none, false, false, true⟩

/-- The run succeeds, and leaves the document, the settings and the output apart. -/
theorem exists_runOn_notes (parser : Parser) (environment : Environment) :
    ∃ page records later, runOn parser notes environment tildeOptions = ((.ok page, records), later) ∧
      (∀ output ∈ outputPaths records, ¬later.SamePlace output ⟨"c.toml"⟩) ∧
      (∀ output ∈ outputPaths records, ¬later.SamePlace output ⟨"a.md"⟩) ∧ ¬later.SamePlace ⟨"c.toml"⟩ ⟨"a.md"⟩ := by
  let settings := tildeOptions.override .standard
  let tree := (highlighted parser .standard "a !!b!! c").value
  let page := (tildeOptions.renderer settings).render tree
  let files₁ := notes.put ["c.toml"] (.text settings.write)
  let files₂ := files₁.put ["~", "mdast-output.json"] (.text tree.dumpIndented)
  let files₃ := files₂.put ["~", "html-output.html"] (.text page)
  -- There are no settings yet, and a run that stores its settings may do without.
  have habsent : notes.isPresent ⟨"c.toml"⟩ = false := by decide
  have hloaded : SettingsLoaded environment tildeOptions notes .standard := .standard habsent (.inr rfl)
  have hsettings : Stored ⟨"c.toml"⟩ settings.write notes files₁ :=
    stored_of_isDirectory ⟨""⟩ (by decide) (by simp) rfl (by decide) (by decide)
  have htree : Stored ⟨"~/mdast-output.json"⟩ tree.dumpIndented files₁ files₂ :=
    stored_of_isDirectory ⟨"~"⟩ (by decide) (fun _ => rfl) rfl (by decide) (by decide)
  have hnone : files₂.entry? ["~", "html-output.html"] = none := rfl
  have hpage : Stored ⟨"~/html-output.html"⟩ page files₂ files₃ :=
    stored_of_isDirectory ⟨"~"⟩ (by decide) (fun _ => rfl) rfl (by decide) (by simp [hnone])
  have houtput : OutputStored tildeOptions ⟨"~"⟩ tree.dumpIndented page files₁ files₃ := ⟨files₂, htree, hpage⟩
  have hrun := runOn_eq_ok_iff.mpr ⟨_, hloaded, perform_highlight_eq_ok_iff.mpr ⟨.standard, files₁, "a !!b!! c", rfl,
    hsettings, ⟨["a.md"], rfl⟩, rfl, houtput, rfl⟩⟩
  -- The settings, the document and the output are found in places of their own.
  have hfindSettings : files₃.find ⟨"c.toml"⟩ = .ok (["c.toml"], .text settings.write) := rfl
  have hfindInput : files₃.find ⟨"a.md"⟩ = .ok (["a.md"], .text "a !!b!! c") := rfl
  have hfindOutput : ∀ output ∈ tildeOptions.outputs ⟨"~"⟩, ∃ name entry, files₃.find output = .ok (["~", name], entry) := by
    intro output houtput
    obtain rfl | houtput := List.mem_cons.mp houtput
    · exact ⟨"mdast-output.json", _, rfl⟩
    · obtain rfl := List.mem_singleton.mp houtput
      exact ⟨"html-output.html", _, rfl⟩
  refine ⟨page, _, files₃, hrun, ?_⟩
  rw [outputPaths_highlight]
  refine ⟨fun output houtput => ?_, fun output houtput => ?_, not_samePlace hfindSettings hfindInput (by decide)⟩
  · obtain ⟨name, entry, hfind⟩ := hfindOutput output houtput
    exact not_samePlace hfind hfindSettings (by simp)
  · obtain ⟨name, entry, hfind⟩ := hfindOutput output houtput
    exact not_samePlace hfind hfindInput (by simp)

/-- Where there is no home directory, the directory stays where it is, and the later run is the same. -/
theorem repeats_notes :
    ∃ page records later, runOn Markdown.events notes ⟨[], none⟩ tildeOptions = ((.ok page, records), later) ∧
      Repeats Markdown.events ⟨[], none⟩ tildeOptions.again later page (outputPaths records) := by
  obtain ⟨page, records, later, hrun, hsettings, hinput, -⟩ := exists_runOn_notes Markdown.events ⟨[], none⟩
  obtain ⟨loaded, settings, -, rfl, -, hiff⟩ := repeats_iff rfl rfl hrun hsettings hinput
  refine ⟨page, records, later, hrun, hiff.mpr fun directory hdirectory expanded hexpanded => ?_⟩
  obtain rfl : directory = ⟨"~"⟩ := (Option.some.inj hdirectory).symm
  rw [Expansion.expand?_tilde] at hexpanded
  obtain rfl : "~" = expanded := Option.some.inj hexpanded
  rfl

/-- Where there is one, the later run has its output there. So a run from stored settings need not be the same. -/
theorem not_repeats :
    ¬∀ (environment : Environment) (options : Options) (files later : FileSystem) (path : Path) (page : String)
      (records : List Log.Record), options.settingsFile = some path → options.storeSettings = true →
        runOn Markdown.events files environment options = ((.ok page, records), later) →
        (∀ output ∈ outputPaths records, ¬later.SamePlace output path) →
        (∀ output ∈ outputPaths records, ¬later.SamePlace output options.input) →
        ¬later.SamePlace path options.input →
        Repeats Markdown.events environment options.again later page (outputPaths records) := by
  intro hall
  obtain ⟨page, records, later, hrun, hsettings, hinput, hapart⟩ :=
    exists_runOn_notes Markdown.events ⟨[("HOME", "home")], none⟩
  obtain ⟨loaded, -, hpaths, delimiter, -, source, hmarker, ⟨place, hfind⟩, -⟩ :=
    exists_of_runOn_eq_ok rfl rfl hrun hsettings hinput
  -- If the later run were the same, then expansion would leave the output in the directory with a tilde.
  have hrepeats := hall _ _ _ _ _ _ _ rfl rfl hrun hsettings hinput hapart
  have hsame := outputs_of_repeats rfl (hmarker ▸ delimiter.marker_visible) hfind hrepeats
  rw [hpaths, outputs_expand_eq_iff] at hsame
  have hjoin := hsame ⟨"~"⟩ rfl "home" (Expansion.expand?_tilde _)
  exact absurd hjoin (by decide)

end Highlighter
