import Highlighter.Proofs.Toml.Document
import Highlighter.Settings.Form

/-!
# Settings are read back

Main statement: settings that are written as a document are read as they were, whatever the texts in them are. A document
says each of the settings by itself, and one of which it says nothing has its usual value.
-/

namespace Highlighter.Settings

/-- The keys that settings are written under, with their texts. -/
def entries (settings : Settings) : List (String × String) :=
  ("marker", String.singleton settings.marker) :: ("style", settings.style) ::
    (settings.outputDirectory.map fun directory => ("output_dir", directory.text)).toList

theorem toList_line (key text : String) : (line key text).toList = Toml.lineChars key text := by
  simp [line, Toml.lineChars, Toml.quote]

/-- Settings are written as one line for each key. -/
theorem write_eq (settings : Settings) :
    settings.write = String.ofList (settings.entries.flatMap fun entry => Toml.lineChars entry.1 entry.2) := by
  apply String.toList_injective
  rw [write, entries]
  cases settings.outputDirectory with
  | none => simp [toList_line]
  | some directory => simp [toList_line]

theorem isBareKey_of_mem_entries {settings : Settings} :
    ∀ entry ∈ settings.entries, Toml.IsBareKey entry.1 := by
  have hkeys : ∀ key ∈ ["marker", "style", "output_dir"], Toml.IsBareKey key := by
    simp [Toml.IsBareKey, Toml.isKeyChar]
  cases hdirectory : settings.outputDirectory with
  | none => simp [entries, hdirectory, hkeys]
  | some directory => simp [entries, hdirectory, hkeys]

theorem nodup_entries (settings : Settings) : (settings.entries.map Prod.fst).Nodup := by
  cases hdirectory : settings.outputDirectory with
  | none => simp [entries, hdirectory]
  | some directory => simp [entries, hdirectory]

/-- **Written settings are read back**, whatever the texts in them are. -/
theorem read_write (settings : Settings) : read settings.write = .ok settings := by
  have hdocument := Toml.document?_lines settings.isBareKey_of_mem_entries settings.nodup_entries
  have hmarker : Option.mapM markerOf (some (String.singleton settings.marker)) = .ok (some settings.marker) := by
    have hone : markerOf (String.singleton settings.marker) = .ok settings.marker := by simp [markerOf]
    rw [Option.mapM_some, hone]
    rfl
  rw [write_eq, read, hdocument, entries]
  obtain ⟨marker, style, directory⟩ := settings
  cases directory with
  | none => simp [text?, List.lookup_cons, hmarker, bind, Except.bind]
  | some directory => simp [text?, List.lookup_cons, hmarker, bind, Except.bind]

/-! ## What a document says -/

/-- What may be said of the settings: each of them by itself, or nothing. -/
structure Said where
  marker : Option Char
  style : Option String
  outputDirectory : Option Path

/-- The settings of which something is said: the others have their usual values. -/
def Said.settings (said : Said) : Settings :=
  ⟨said.marker.getD standard.marker, said.style.getD standard.style, said.outputDirectory⟩

/-- A table says something of the settings: the text under the key of each, if there is one. -/
structure Says (table : Toml.Table) (said : Said) : Prop where
  marker : table.lookup "marker" = said.marker.map fun marker => .string (String.singleton marker)
  style : table.lookup "style" = said.style.map .string
  outputDirectory : table.lookup "output_dir" = said.outputDirectory.map fun directory => .string directory.text

theorem text?_eq_ok_iff {table : Toml.Table} {key : String} {found : Option String} :
    text? table key = .ok found ↔ table.lookup key = found.map .string := by
  unfold text?
  cases table.lookup key with
  | none => cases found <;> simp
  | some value => cases value <;> cases found <;> simp [eq_comm]

theorem markerOf_eq_ok_iff {text : String} {marker : Char} : markerOf text = .ok marker ↔ text = String.singleton marker := by
  unfold markerOf
  rw [← String.toList_inj, String.toList_singleton]
  split
  · next own hown => simp [hown]
  · next hnot =>
    simp only [reduceCtorEq, false_iff]
    exact hnot marker

/-- The marker of a text, if there is a text, is the character that the text is. -/
theorem mapM_markerOf_eq_ok_iff {text : Option String} {marker : Option Char} :
    text.mapM markerOf = .ok marker ↔ text = marker.map String.singleton := by
  cases text with
  | none => cases marker <;> simp [pure, Except.pure]
  | some own =>
    have hsome : ∀ character, some own = Option.map String.singleton (some character) ↔ markerOf own = .ok character := by
      simp [markerOf_eq_ok_iff]
    rw [Option.mapM_some]
    cases marker with
    | none => cases markerOf own <;> simp [Functor.map, Except.map]
    | some character => rw [hsome]; cases markerOf own <;> simp [Functor.map, Except.map]

theorem bind_eq_ok_iff {ε α β : Type} {first : Except ε α} {next : α → Except ε β} {value : β} :
    first >>= next = .ok value ↔ ∃ between, first = .ok between ∧ next between = .ok value := by
  cases first <;> simp [bind, Except.bind]

/-- A text is read if it is a document that says something of the settings. -/
theorem exists_says_of_read {text : String} {settings : Settings} (h : read text = .ok settings) :
    ∃ table said, Toml.document? text = some table ∧ Says table said ∧ settings = said.settings := by
  unfold read at h
  cases hdocument : Toml.document? text with
  | none => simp [hdocument] at h
  | some table =>
    -- Reading takes the three entries one after the other, so each of them was read without an error.
    simp only [hdocument, bind_eq_ok_iff] at h
    obtain ⟨own, hown, marker, hmarker, style, hstyle, directory, hdirectory, hsettings⟩ := h
    rw [mapM_markerOf_eq_ok_iff] at hmarker
    subst hmarker
    rw [text?_eq_ok_iff, Option.map_map] at hown
    refine ⟨table, ⟨marker, style, directory.map Path.mk⟩, rfl, ⟨hown, text?_eq_ok_iff.mp hstyle, ?_⟩,
      (Except.ok.inj hsettings).symm⟩
    rw [text?_eq_ok_iff.mp hdirectory, Option.map_map]
    rfl

end Highlighter.Settings
