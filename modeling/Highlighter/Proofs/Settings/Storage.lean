import Highlighter.Proofs.Files.Changes
import Highlighter.Proofs.Settings.Form
import Highlighter.Settings.Storage

/-!
# Stored settings are loaded

Main statement: settings that were stored at a path are loaded from it, with the marker and the style as they were, and
with the directory for the output expanded, as far as its variables are set. So they are the same settings exactly if
there is nothing to expand.
-/

namespace Highlighter

open FileSystem

/-! ## Expansion -/

namespace Expansion

theorem mapM_eq_none_iff {α β : Type} {f : α → Option β} {xs : List α} :
    xs.mapM f = none ↔ ∃ x ∈ xs, f x = none := by
  induction xs with
  | nil => simp
  | cons x xs ih =>
    rw [List.mapM_cons]
    cases hx : f x with
    | none => simp [hx]
    | some y => cases hxs : xs.mapM f <;> simp_all

theorem Part.value?_eq_none_iff {environment : Environment} {part : Part} :
    part.value? environment = none ↔
      ∃ name, part = .reference name none ∧ environment.value? (String.ofList name) = none := by
  cases part with
  | literal text => simp [Part.value?]
  | reference name standIn => cases standIn <;> simp [Part.value?]

/-- A text has no expansion exactly if it names a variable that is not set and has no stand-in. -/
theorem expand?_eq_none_iff {environment : Environment} {text : String} :
    expand? environment text = none ↔
      ∃ name, .reference name none ∈ parts text.toList ∧ environment.value? (String.ofList name) = none := by
  -- The text is put together from its parts, so it is a part that has no value.
  have hparts : expand? environment text = none ↔ (parts text.toList).mapM (Part.value? environment) = none := by
    rw [expand?]
    cases (parts text.toList).mapM (Part.value? environment) with
    | none => simp
    | some values =>
      simp only [Option.bind_eq_bind, Option.bind_some, reduceCtorEq, iff_false]
      split <;> simp
  rw [hparts, mapM_eq_none_iff]
  constructor
  · rintro ⟨part, hpart, hvalue⟩
    obtain ⟨name, rfl, hunset⟩ := Part.value?_eq_none_iff.mp hvalue
    exact ⟨name, hpart, hunset⟩
  · rintro ⟨name, hname, hunset⟩
    exact ⟨_, hname, Part.value?_eq_none_iff.mpr ⟨name, rfl, hunset⟩⟩

/-- A tilde that stands alone is expanded to the home directory, if there is one. -/
theorem expand?_tilde (environment : Environment) :
    expand? environment "~" = some (environment.home?.getD "~") := by
  have hparts : parts "~".toList = [.literal ['~']] := by simp [parts]
  rw [expand?, hparts]
  simp only [List.mapM_cons, List.mapM_nil, Part.value?, Option.bind_eq_bind, Option.bind_some, Option.pure_def]
  cases hhome : environment.home? with
  | none => simp [expandTilde, hhome]
  | some home => simp [expandTilde, hhome]

end Expansion

namespace Settings

theorem perform_save_eq_ok_iff {settings : Settings} {path : Path} {files later : FileSystem} {value : Unit} :
    perform (settings.save path) files = (.ok value, later) ↔ Stored path settings.write files later := by
  unfold save Stored ParentCreated
  cases path.parent? with
  | none => simp only [perform_writeText_eq_ok_iff, exists_eq_left]
  | some parent =>
    simp only [perform_bind_eq_ok_iff, perform_createDirectories_eq_ok_iff, perform_writeText_eq_ok_iff, exists_const]

/-- Settings that could not be stored may leave directories above their path, and nothing else. -/
theorem changes_of_perform_save {settings : Settings} {path : Path} {fault : Fault} {files later : FileSystem}
    (h : perform (settings.save path) files = (.error fault, later)) : Changes [] (·.IsAbove path) files later := by
  unfold save at h
  cases hparent : path.parent? with
  | none =>
    simp only [hparent, perform_writeText_eq_error_iff] at h
    obtain ⟨-, rfl⟩ := h
    -- Without a parent no directory is made, and a file that could not be written changes nothing.
    exact Changes.refl _ _
  | some parent =>
    -- The directories above the path come first, whether making them or writing the file fails.
    have hcreated := (files.changes_of_createDirectories parent).mono fun _ => Path.IsAbove.of_parent hparent
    simp only [hparent, perform_bind_eq_error_iff, perform_createDirectories_eq_error_iff,
      perform_createDirectories_eq_ok_iff, perform_writeText_eq_error_iff] at h
    rcases h with hfail | ⟨-, between, hcreate, -, rfl⟩
    · rwa [hfail] at hcreated
    · rwa [hcreate] at hcreated

/-- Loading looks at files, and changes none. -/
theorem perform_load (environment : Environment) (path : Path) (files : FileSystem) :
    perform (load environment path) files =
      (if files.isPresent path then
        ((files.readText path).mapError (SettingsError.unreadable path)).bind fun text =>
          (ofFile environment path text).map some
      else .ok none, files) := by
  rw [load, perform_bind, perform_isPresent]
  cases files.isPresent path with
  | false => rfl
  | true =>
    have hread : perform (ExceptT.mk (do return (← MonadFiles.readText path).mapError (.unreadable path)) :
        ExceptT SettingsError (StateM FileSystem) String) files =
          ((files.readText path).mapError (.unreadable path), files) := rfl
    simp only [↓reduceIte, perform_bind, hread]
    cases (files.readText path).mapError (SettingsError.unreadable path) with
    | error error => rfl
    | ok text =>
      simp only [perform_result, Except.bind]
      cases ofFile environment path text <;> rfl

theorem files_of_perform_load {environment : Environment} {path : Path} {files later : FileSystem}
    {result : Except SettingsError (Option Settings)} (h : perform (load environment path) files = (result, later)) :
    later = files := by
  rw [perform_load] at h
  exact (Prod.mk.inj h).2.symm

/-- No settings are loaded exactly if there is nothing at the path. -/
theorem perform_load_eq_none_iff {environment : Environment} {path : Path} {files later : FileSystem} :
    perform (load environment path) files = (.ok none, later) ↔ later = files ∧ files.isPresent path = false := by
  rw [perform_load]
  cases files.isPresent path with
  | false => simp [eq_comm]
  | true =>
    cases files.readText path with
    | error fault => simp [Except.mapError, Except.bind]
    | ok text => cases hform : ofFile environment path text <;> simp [Except.mapError, Except.bind, Except.map, hform]

/-- Settings are taken from a text that says them with a marker that is no white space. -/
theorem ofFile_eq_ok_iff {environment : Environment} (path : Path) {text : String} {settings : Settings} :
    ofFile environment path text = .ok settings ↔
      ∃ own, read text = .ok own ∧ Unicode.isWhiteSpace own.marker = false ∧ settings = own.expand environment := by
  rw [ofFile]
  cases read text with
  | error error => simp [Except.mapError, bind, Except.bind]
  | ok own =>
    cases hmarker : Unicode.isWhiteSpace own.marker with
    | true => simp [Except.mapError, bind, Except.bind, hmarker]
    | false => simp [Except.mapError, bind, Except.bind, hmarker, eq_comm (a := settings)]

/-- Settings are loaded from the text that the path leads to. -/
theorem perform_load_eq_some_iff {environment : Environment} {path : Path} {settings : Settings}
    {files later : FileSystem} :
    perform (load environment path) files = (.ok (some settings), later) ↔ later = files ∧
      ∃ text own, files.readText path = .ok text ∧ read text = .ok own ∧ Unicode.isWhiteSpace own.marker = false ∧
        settings = own.expand environment := by
  rw [perform_load]
  cases hread : files.readText path with
  | error fault => cases files.isPresent path <;> simp [Except.mapError, Except.bind]
  | ok text =>
    -- A text that can be read is present, so the look at the path does not end the load.
    have hpresent := isPresent_of_readText hread
    simp only [hpresent, ↓reduceIte, Except.mapError, Except.bind, Prod.mk.injEq, Except.ok.injEq,
      exists_and_left, exists_eq_left', ← ofFile_eq_ok_iff path]
    cases ofFile environment path text <;> simp [Except.map, and_comm, eq_comm (a := later)]

/-- Settings are loaded from where they are written, and expanded. -/
theorem perform_load_of_find (environment : Environment) {settings : Settings}
    (hmarker : Unicode.isWhiteSpace settings.marker = false) {files : FileSystem} {path : Path} {place : Place}
    (hfind : files.find path = .ok (place, .text settings.write)) :
    perform (load environment path) files = (.ok (some (settings.expand environment)), files) :=
  perform_load_eq_some_iff.mpr ⟨rfl, settings.write, settings, readText_of_find hfind, read_write settings, hmarker, rfl⟩

/-- Settings are fixed by expansion exactly if their directory is. -/
theorem expand_eq_self_iff {environment : Environment} {settings : Settings} :
    settings.expand environment = settings ↔
      ∀ directory, settings.outputDirectory = some directory →
        ∀ expanded, Expansion.expand? environment directory.text = some expanded → expanded = directory.text := by
  obtain ⟨marker, style, outputDirectory⟩ := settings
  cases outputDirectory with
  | none => simp [expand]
  | some directory =>
    obtain ⟨text⟩ := directory
    cases hexpand : Expansion.expand? environment text with
    | none => simp [expand, hexpand]
    | some expanded => simp [expand, hexpand]

/-- **Stored settings are loaded.** Whatever the texts in them are, settings that were stored at a path are loaded from it,
if their marker is no white space. The marker and the style are as they were, and the directory for the output is
expanded, or as it was if it names a variable that is not set. They are the same settings exactly if expansion does not
change the directory. -/
theorem load_save (environment : Environment) (settings : Settings) (path : Path) (files later : FileSystem)
    (hmarker : Unicode.isWhiteSpace settings.marker = false)
    (hsave : perform (settings.save path) files = (.ok (), later)) :
    ∃ loaded, perform (load environment path) later = (.ok (some loaded), later) ∧
      loaded.marker = settings.marker ∧ loaded.style = settings.style ∧
      (settings.outputDirectory = none → loaded.outputDirectory = none) ∧
      (∀ directory, settings.outputDirectory = some directory →
        (∃ expanded, Expansion.expand? environment directory.text = some expanded ∧
            loaded.outputDirectory = some ⟨expanded⟩) ∨
          ∃ name, .reference name none ∈ Expansion.parts directory.text.toList ∧
            environment.value? (String.ofList name) = none ∧ loaded.outputDirectory = some directory) ∧
      (loaded = settings ↔ ∀ directory, settings.outputDirectory = some directory →
        ∀ expanded, Expansion.expand? environment directory.text = some expanded → expanded = directory.text) := by
  obtain ⟨place, hfind, -, -⟩ := (perform_save_eq_ok_iff.mp hsave).spec
  refine ⟨settings.expand environment, perform_load_of_find environment hmarker hfind, rfl, rfl, ?_, ?_, expand_eq_self_iff⟩
  · -- Without a directory there is nothing to expand.
    intro hnone
    simp [expand, hnone]
  · intro directory hdirectory
    cases hexpand : Expansion.expand? environment directory.text with
    | some expanded =>
      left
      exact ⟨expanded, rfl, by simp [expand, hdirectory, hexpand]⟩
    -- The part without a value is the variable that is not set.
    | none =>
      right
      obtain ⟨name, hname, hunset⟩ := Expansion.expand?_eq_none_iff.mp hexpand
      exact ⟨name, hname, hunset, by simp [expand, hdirectory, hexpand]⟩

/-- Settings with quotes, backslashes, control characters and line ends in their style, and a variable in their directory. -/
def hostileSettings : Settings := ⟨'"', "a\r\n'''\"\"\"\\u\x00\x7f\t", some ⟨"~/$OUT"⟩⟩

/-- An environment with a home directory and with the variable. -/
def homeEnvironment : Environment := ⟨[("HOME", "home"), ("OUT", "pages")], none⟩

/-- Stored in an empty directory, they are loaded with the same style, and with the directory that the tilde and the variable
stand for. -/
theorem load_save_hostileSettings :
    Unicode.isWhiteSpace hostileSettings.marker = false ∧
      perform (hostileSettings.save ⟨"c.toml"⟩) ⟨[], []⟩ =
        (.ok (), FileSystem.put ⟨[], []⟩ ["c.toml"] (.text hostileSettings.write)) ∧
      ∃ loaded, perform (load homeEnvironment ⟨"c.toml"⟩)
          (FileSystem.put ⟨[], []⟩ ["c.toml"] (.text hostileSettings.write)) =
            (.ok (some loaded), FileSystem.put ⟨[], []⟩ ["c.toml"] (.text hostileSettings.write)) ∧
        loaded.marker = hostileSettings.marker ∧ loaded.style = hostileSettings.style ∧
        loaded.outputDirectory = some ⟨"home/pages"⟩ ∧ loaded ≠ hostileSettings := by
  have hmarker : Unicode.isWhiteSpace hostileSettings.marker = false := by decide
  have hsave : perform (hostileSettings.save ⟨"c.toml"⟩) ⟨[], []⟩ =
      (.ok (), FileSystem.put ⟨[], []⟩ ["c.toml"] (.text hostileSettings.write)) := by
    have hparent : Path.parent? ⟨"c.toml"⟩ = some ⟨""⟩ := by decide
    have htarget : FileSystem.target ⟨[], []⟩ ⟨"c.toml"⟩ = .ok (.place ["c.toml"]) := rfl
    exact perform_save_eq_ok_iff.mpr (stored_of_isDirectory _ hparent (by simp) htarget (by decide) (by decide))
  have hparts : Expansion.parts "~/$OUT".toList = [.literal ['~'], .literal ['/'], .reference ['O', 'U', 'T'] none] := by
    have hname : Expansion.isNameChar 'O' = true ∧ Expansion.isNameChar 'U' = true ∧ Expansion.isNameChar 'T' = true := by
      decide
    simp [Expansion.parts, hname]
  have hexpand : Expansion.expand? homeEnvironment "~/$OUT" = some "home/pages" := by
    rw [Expansion.expand?, hparts]
    rfl
  obtain ⟨loaded, hload, hsame, hstyle, -, hdirectory, hfixed⟩ :=
    load_save homeEnvironment hostileSettings ⟨"c.toml"⟩ ⟨[], []⟩ _ hmarker hsave
  refine ⟨hmarker, hsave, loaded, hload, hsame, hstyle, ?_, fun heq => ?_⟩
  · rcases hdirectory ⟨"~/$OUT"⟩ rfl with ⟨expanded, hexpanded, hloaded⟩ | ⟨name, hname, hunset, -⟩
    · rw [hloaded, ← Option.some.inj (hexpand.symm.trans hexpanded)]
    · -- The variable is set, so the directory is not left as it was.
      rw [Expansion.expand?_eq_none_iff.mpr ⟨name, hname, hunset⟩] at hexpand
      contradiction
  · exact absurd (hfixed.mp heq _ rfl _ hexpand) (by decide)

end Settings

end Highlighter
