import Highlighter.Proofs.CommandLine.Steps

/-!
# What a run leaves

A run that succeeds leaves the tree and the page of its document, and nothing else that is new but the directories that
they stand in. Main statement: both are made of one tree, that of the document as it was before the run, by settings each
of which is that of the options, or else that of the settings file, or else the usual one.
-/

namespace Highlighter

open FileSystem

/-! ## The settings of a run -/

/-- What is said of the settings at a path: nothing, where there is nothing. -/
def SettingsSaid (files : FileSystem) (path : Path) (said : Settings.Said) : Prop :=
  (files.isPresent path = false ∧ said = ⟨none, none, none⟩) ∨
    ∃ text table, files.readText path = .ok text ∧ Toml.document? text = some table ∧ Settings.Says table said

section

variable {environment : Environment} {options : Options} {settings : Settings} {files later : FileSystem}

/-- The settings that a run begins with are those that are said in their file, and the usual ones for the others. -/
theorem exists_said_of_settingsLoaded (h : SettingsLoaded environment options files settings) :
    ∃ said, SettingsSaid files (options.settingsPath environment) said ∧ settings = said.settings.expand environment := by
  obtain ⟨stored, hload, rfl | ⟨rfl, -, rfl⟩⟩ := h
  · obtain ⟨-, text, own, htext, hread, -, rfl⟩ := Settings.perform_load_eq_some_iff.mp hload
    obtain ⟨table, said, htable, hsays, rfl⟩ := Settings.exists_says_of_read hread
    exact ⟨said, .inr ⟨text, table, htext, htable, hsays⟩, rfl⟩
  · obtain ⟨-, habsent⟩ := Settings.perform_load_eq_none_iff.mp hload
    exact ⟨⟨none, none, none⟩, .inl ⟨habsent, rfl⟩, rfl⟩

/-! ## The files of the output -/

/-- The paths of the output in a directory. -/
def Options.outputs (options : Options) (directory : Path) : List Path :=
  directory.join treeFile :: if options.noPage then [] else [directory.join pageFile]

theorem mem_outputs_iff {directory output : Path} :
    output ∈ options.outputs directory ↔
      output = directory.join treeFile ∨ options.noPage = false ∧ output = directory.join pageFile := by
  unfold Options.outputs
  cases options.noPage <;> simp

theorem isProper_treeFile : Path.IsProper treeFile := ⟨by decide, by decide⟩

theorem isProper_pageFile : Path.IsProper pageFile := ⟨by decide, by decide⟩

namespace OutputStored

variable {directory : Path} {tree page : String}

/-- Storing the output fills the places of the output, and the directories above them may be new. -/
theorem changes (h : OutputStored options directory tree page files later) :
    Changes ((options.outputs directory).map files.placeOf)
      (fun above => ∃ output ∈ options.outputs directory, above.IsAbove output) files later := by
  obtain ⟨between, htree, hpage⟩ := h
  have hchanges := htree.changes.1
  unfold Options.outputs
  cases hno : options.noPage with
  | true =>
    -- Without a page there is only the tree.
    rw [hno, if_pos rfl] at hpage
    subst hpage
    exact hchanges.mono fun above habove => ⟨_, List.mem_cons_self, habove⟩
  | false =>
    rw [hno, if_neg (by decide)] at hpage
    -- Storing the tree does not change to which place the path of the page leads.
    have hmore := hpage.changes.1
    rw [hchanges.placeOf] at hmore
    refine (hchanges.trans hmore).mono fun above habove => ?_
    rcases habove with habove | habove
    · exact ⟨_, List.mem_cons_self, habove⟩
    · exact ⟨_, by simp, habove⟩

/-- The tree is found where it was stored: the page has a place of its own. -/
theorem find_tree (h : OutputStored options directory tree page files later) :
    later.find (directory.join treeFile) = .ok (files.placeOf directory ++ [treeFile], .text tree) := by
  obtain ⟨between, htree, hpage⟩ := h
  have hfind := htree.find.1
  rw [placeOf_join _ _ isProper_treeFile] at hfind
  cases hno : options.noPage with
  | true =>
    rw [hno, if_pos rfl] at hpage
    rwa [hpage]
  | false =>
    rw [hno, if_neg (by decide)] at hpage
    -- The page is stored after the tree, in the same directory under another name.
    have hkeeps := hpage.find.2
    rw [htree.changes.1.placeOf, placeOf_join _ _ isProper_pageFile] at hkeeps
    exact hkeeps.find hfind (by simp [treeFile, pageFile])

theorem find_page (h : OutputStored options directory tree page files later) (hno : options.noPage = false) :
    later.find (directory.join pageFile) = .ok (files.placeOf directory ++ [pageFile], .text page) := by
  obtain ⟨between, htree, hpage⟩ := h
  rw [hno, if_neg (by decide)] at hpage
  rw [← placeOf_join _ _ isProper_pageFile, ← htree.changes.1.placeOf]
  exact hpage.find.1

end OutputStored

/-! ## Runs that succeed -/

/-- The output of a run is in a directory, and nothing else is new but directories above it: a file at any other place is
there exactly if it was there before. -/
structure OutputWritten (options : Options) (directory : Path) (tree : Node) (page : String)
    (files later : FileSystem) : Prop where
  tree : later.find (directory.join treeFile) = .ok (files.placeOf directory ++ [treeFile], .text tree.dumpIndented)
  page : options.noPage = false →
    later.find (directory.join pageFile) = .ok (files.placeOf directory ++ [pageFile], .text page)
  no_page : options.noPage = true → ∀ entry, entry ≠ .directory →
    (later.entry? (files.placeOf directory ++ [pageFile]) = some entry ↔
      files.entry? (files.placeOf directory ++ [pageFile]) = some entry)
  kept : ∀ place, place ≠ files.placeOf directory ++ [treeFile] → place ≠ files.placeOf directory ++ [pageFile] →
    ∀ entry, entry ≠ .directory → (later.entry? place = some entry ↔ files.entry? place = some entry)
  changes : Changes ((options.outputs directory).map files.placeOf)
    (fun above => ∃ output ∈ options.outputs directory, above.IsAbove output) files later

theorem OutputStored.written {directory : Path} {tree : Node} {page : String}
    (h : OutputStored options directory tree.dumpIndented page files later) :
    OutputWritten options directory tree page files later where
  tree := h.find_tree
  page := h.find_page
  no_page hno entry hne := by
    refine h.changes.file_iff ?_ hne
    -- The only file that is filled is that of the tree, which has another name.
    rw [Options.outputs, if_pos hno, List.map_singleton, placeOf_join _ _ isProper_treeFile]
    simp [treeFile, pageFile]
  kept place htree hpage entry hne := by
    refine h.changes.file_iff ?_ hne
    -- The files that are filled are at the two places that the other file is not at.
    rw [← placeOf_join _ _ isProper_treeFile] at htree
    rw [← placeOf_join _ _ isProper_pageFile] at hpage
    unfold Options.outputs
    split <;> simp [htree, hpage]
  changes := h.changes

variable {parser : Parser} {config : Settings} {records more : List Log.Record} {page : String}

/-- **A run leaves the tree and the page of its document, and nothing else.** If a run succeeds that stores no settings, then
its tree is that of the document as it was, behind one pass with its marker. The tree is in its file in the directory for
the output, the page is made of the same tree and is in its file, unless the run makes none, and every other file is as it
was. Only directories may be new, and only on the way to the output. The marker, the style and the directory are each that
of the options, or else that of the settings, or else the usual one. -/
theorem written_of_highlight (hstore : options.storeSettings = false)
    (hrun : RunT.perform (highlight parser environment options (options.override config)) records files =
      ((.ok page, more), later)) :
    ∃ (delimiter : Delimiter) (source : String) (tree : Node) (directory : Path),
      delimiter.marker = options.marker.getD config.marker ∧
      directory = (options.outputDirectory.or config.outputDirectory).getD options.inputDirectory ∧
      files.readText options.input = .ok source ∧
      tree = (delimiter.highlight (parser.read source).value).value ∧
      page = Renderer.render { Renderer.plain.register "highlight" (.styled (options.style.getD config.style)) with
        allowHtml := options.allowHtml } tree ∧
      OutputWritten options directory tree page files later ∧
      (SettingsLoaded environment options files config → ∃ said,
        SettingsSaid files (options.settingsPath environment) said ∧ config = said.settings.expand environment) := by
  obtain ⟨delimiter, stored, source, hmarker, hstored, hread, hpage, houtput, -⟩ := perform_highlight_eq_ok_iff.mp hrun
  -- No settings are stored, so the document is read on the files that the run began with.
  rw [SettingsStored, hstore] at hstored
  obtain rfl : stored = files := hstored
  exact ⟨delimiter, source, _, _, Delimiter.ofMarker_eq_ok_iff.mp hmarker, rfl, readText_eq_ok_iff.mpr hread, rfl, hpage,
    houtput.written, exists_said_of_settingsLoaded⟩

end

/-! ## A document alone -/

/-- There is a document and nothing else. -/
def alone : FileSystem := ⟨[(["a.md"], .text "a !!b!! c")], []⟩

/-- Options that name the document and nothing else. -/
def plainOptions : Options := ⟨⟨"a.md"⟩, none, none, none, none, false, false, false⟩

/-- The output goes beside the document, by the usual settings. -/
theorem written_of_highlight_alone :
    ∃ page more later, plainOptions.storeSettings = false ∧
      RunT.perform (highlight Markdown.events ⟨[], none⟩ plainOptions (plainOptions.override .standard)) [] alone =
        ((.ok page, more), later) ∧
      SettingsLoaded ⟨[], none⟩ plainOptions alone .standard ∧
      (∃ tree, OutputWritten plainOptions ⟨"."⟩ tree page alone later) ∧
      ∃ said, SettingsSaid alone (plainOptions.settingsPath ⟨[], none⟩) said ∧
        Settings.standard = said.settings.expand ⟨[], none⟩ := by
  -- The texts of the two files do not matter, so they are not computed.
  let tree := (highlighted Markdown.events .standard "a !!b!! c").value
  let page := (plainOptions.renderer (plainOptions.override .standard)).render tree
  let files₁ := alone.put ["mdast-output.json"] (.text tree.dumpIndented)
  let files₂ := files₁.put ["html-output.html"] (.text page)
  have htree : Stored ⟨"./mdast-output.json"⟩ tree.dumpIndented alone files₁ :=
    stored_of_isDirectory ⟨"."⟩ (by decide) (fun _ => rfl) rfl (by decide) (by decide)
  have hpage : Stored ⟨"./html-output.html"⟩ page files₁ files₂ :=
    stored_of_isDirectory ⟨"."⟩ (by decide) (fun _ => rfl) rfl (by decide) (by decide)
  have houtput : OutputStored plainOptions ⟨"."⟩ tree.dumpIndented page alone files₂ := ⟨files₁, htree, hpage⟩
  have hrun : RunT.perform (highlight Markdown.events ⟨[], none⟩ plainOptions (plainOptions.override .standard)) [] alone =
      ((.ok page, _), files₂) :=
    perform_highlight_eq_ok_iff.mpr ⟨.standard, alone, "a !!b!! c", rfl, rfl, ⟨["a.md"], rfl⟩, rfl, houtput, rfl⟩
  have hloaded : SettingsLoaded ⟨[], none⟩ plainOptions alone .standard := .standard (by decide) (.inl rfl)
  obtain ⟨delimiter, source, own, directory, -, rfl, -, -, -, hwritten, hsaid⟩ := written_of_highlight rfl hrun
  exact ⟨page, _, files₂, rfl, hrun, hloaded, ⟨own, hwritten⟩, hsaid hloaded⟩

/-- The output goes to a directory whose path leads through the name of the page, and there is no page. -/
def detourOptions : Options := ⟨⟨"a.md"⟩, some ⟨"html-output.html/.."⟩, none, none, none, false, true, false⟩

/-- So a directory of that name is created: a run without a page need not leave the place of the page as it was. -/
theorem not_same_of_noPage :
    ¬∀ (environment : Environment) (options : Options) (config : Settings) (files later : FileSystem) (page : String)
      (records more : List Log.Record), options.storeSettings = false → options.noPage = true →
        RunT.perform (highlight Markdown.events environment options (options.override config)) records files =
          ((.ok page, more), later) →
        later.entry? (files.placeOf ((options.directory (options.override config)).join pageFile)) =
          files.entry? (files.placeOf ((options.directory (options.override config)).join pageFile)) := by
  let tree := (highlighted Markdown.events .standard "a !!b!! c").value
  let page := (detourOptions.renderer (detourOptions.override .standard)).render tree
  let files₁ := alone.put ["html-output.html"] .directory
  let files₂ := files₁.put ["mdast-output.json"] (.text tree.dumpIndented)
  -- The directory with the name of the page is missing, so the way through it is made by creating it.
  have hcreateFirst : alone.createDirectories ⟨"html-output.html"⟩ = (files₁, .ok ()) :=
    createDirectories_of_ensureDirectory (by decide) rfl
  have hcreate : alone.createDirectories ⟨"html-output.html/.."⟩ = (files₁, .ok ()) :=
    createDirectories_of_missing (by decide) rfl (by decide) (by decide) hcreateFirst rfl
  have htree : Stored ⟨"html-output.html/../mdast-output.json"⟩ tree.dumpIndented alone files₂ := by
    refine ⟨files₁, ?_, rfl⟩
    have hparent : Path.parent? ⟨"html-output.html/../mdast-output.json"⟩ = some ⟨"html-output.html/.."⟩ := by decide
    rwa [ParentCreated, hparent]
  have houtput : OutputStored detourOptions ⟨"html-output.html/.."⟩ tree.dumpIndented page alone files₂ :=
    ⟨files₂, htree, rfl⟩
  have hrun : RunT.perform (highlight Markdown.events ⟨[], none⟩ detourOptions (detourOptions.override .standard)) [] alone =
      ((.ok page, _), files₂) :=
    perform_highlight_eq_ok_iff.mpr ⟨.standard, alone, "a !!b!! c", rfl, rfl, ⟨["a.md"], rfl⟩, rfl, houtput, rfl⟩
  -- Where a page would have stood there was nothing before, and there is a directory now.
  intro hall
  have hsame := hall ⟨[], none⟩ detourOptions .standard alone files₂ _ [] _ rfl rfl hrun
  exact absurd hsame (by decide)

end Highlighter
