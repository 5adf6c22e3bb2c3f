import Highlighter.Proofs.Files.Access

/-!
# What changes add

Files are written and directories are created at the places that paths name, and nothing else comes to be. Main statement:
storing a text at a path fills the place that the path names and may create the directories above it, and every other place
holds what it held.

Names lead to a place whether or not there is anything on the way. Where a path can be followed, it leads to the place that
it names.
-/

namespace Highlighter

/-- One path is that of a directory above another one: its parent, or the parent of that, and so on. -/
inductive Path.IsAbove (above : Path) : Path → Prop where
  | parent {path : Path} (hparent : path.parent? = some above) : IsAbove above path
  | further {path parent : Path} (hparent : path.parent? = some parent) (habove : IsAbove above parent) :
      IsAbove above path

/-- What is created for the parent of a path is above the path. -/
theorem Path.IsAbove.of_parent {directory path parent : Path} (hparent : path.parent? = some parent)
    (h : directory = parent ∨ directory.IsAbove parent) : directory.IsAbove path := by
  rcases h with rfl | h
  · exact .parent hparent
  · exact .further hparent h

/-- What holds of the parent of a path, and of what is above that, holds of what is above the path. -/
theorem Path.forall_isAbove {path parent : Path} {holds : Path → Prop} (hparent : path.parent? = some parent)
    (h : holds parent) (hfurther : ∀ above, above.IsAbove parent → holds above) :
    ∀ above, above.IsAbove path → holds above := by
  intro above habove
  cases habove with
  | parent hown =>
    obtain rfl := Option.some.inj (hparent.symm.trans hown)
    exact h
  | further hown hmore =>
    obtain rfl := Option.some.inj (hparent.symm.trans hown)
    exact hfurther above hmore

/-- Nothing is above a path that has no parent. -/
theorem Path.not_isAbove {path : Path} (hparent : path.parent? = none) (above : Path) : ¬above.IsAbove path := by
  intro habove
  cases habove with
  | parent hown | further hown => simp [hparent] at hown

/-- Above a path in the current directory there is only this directory. -/
theorem Path.forall_isAbove_of_current {path : Path} {holds : Path → Prop} (hparent : path.parent? = some ⟨""⟩)
    (h : holds ⟨""⟩) : ∀ above, above.IsAbove path → holds above :=
  Path.forall_isAbove hparent h fun above habove => absurd habove (Path.not_isAbove (by decide) above)

namespace FileSystem

/-! ## Named places -/

/-- The place that names lead to from a place, whether or not there is anything on the way. -/
def reach (place : Place) : List String → Place
  | [] => place
  | name :: names =>
    if name = "" ∨ name = "." then reach place names
    else if name = ".." then reach place.dropLast names
    else reach (place ++ [name]) names

/-- The place that a path names. -/
def placeOf (files : FileSystem) (path : Path) : Place := reach (files.origin path) path.names

variable {files later : FileSystem}

theorem reach_append (place : Place) (names more : List String) :
    reach place (names ++ more) = reach (reach place names) more := by
  induction names generalizing place with
  | nil => rfl
  | cons name names ih =>
    rw [List.cons_append, reach, reach]
    split_ifs <;> exact ih _

theorem reach_blanks (place : Place) (count : Nat) : reach place (List.replicate count "") = place := by
  induction count with
  | zero => rfl
  | succ count ih => simp [List.replicate_succ, reach, ih]

theorem reach_of_follow {place other : Place} {names : List String} (h : files.follow place names = .ok other) :
    reach place names = other := by
  induction names generalizing place with
  | nil => exact Except.ok.inj h
  | cons name names ih =>
    rw [follow, entry?_of_follow_cons h] at h
    rw [reach]
    split_ifs at h ⊢ <;> exact ih h

/-- A path that leads to something leads to the place that it names. -/
theorem placeOf_of_find {path : Path} {place : Place} {entry : Entry} (h : files.find path = .ok (place, entry)) :
    files.placeOf path = place := by
  obtain ⟨-, hfollow, -⟩ := find_eq_ok_iff.mp h
  exact reach_of_follow hfollow

/-- A place to be filled is the one that its path names. -/
theorem placeOf_of_target {path : Path} {result : Target} {slot : Place} (h : files.target path = .ok result)
    (hslot : result.slot? = some slot) : files.placeOf path = slot := by
  obtain ⟨-, before, last, count, directory, hnames, hlast, hbefore, -, rfl, -⟩ := exists_names_of_target h hslot
  have hone : reach directory [last] = directory ++ [last] := by
    simp only [List.mem_cons, List.not_mem_nil, or_false, not_or] at hlast
    simp [reach, hlast]
  rw [placeOf, hnames, reach_append, reach_of_follow hbefore, ← List.singleton_append, reach_append, hone, reach_blanks]

/-! ## Names in a directory -/

end FileSystem

namespace Path

theorem pieces_of_not_mem {text : List Char} (h : '/' ∉ text) : pieces text = [text] := by
  induction text with
  | nil => rfl
  | cons c text ih =>
    obtain ⟨hne, hnot⟩ := not_or.mp (mt List.mem_cons.mpr h)
    rw [pieces, if_neg (Ne.symm hne), ih hnot]

theorem pieces_append_slash (front back : List Char) : pieces (front ++ '/' :: back) = pieces front ++ pieces back := by
  induction front with
  | nil => rfl
  | cons c front ih =>
    rw [List.cons_append, pieces, pieces]
    split
    · rw [ih, List.cons_append]
    · rw [ih]
      cases hpieces : pieces front with
      | nil => exact absurd hpieces (pieces_ne_nil front)
      | cons piece more => rfl

/-- A name that may be that of a file: it leads from a directory to a place in it. -/
structure IsProper (name : String) : Prop where
  slash : '/' ∉ name.toList
  leads : name ∉ ["", ".", ".."]

end Path

namespace FileSystem

variable {files later : FileSystem}

theorem reach_proper (place : Place) {name : String} (h : Path.IsProper name) : reach place [name] = place ++ [name] := by
  have hleads : (¬name = "" ∧ ¬name = ".") ∧ ¬name = ".." := by simpa [and_assoc] using h.leads
  simp [reach, hleads]

/-- The path of a name in a directory names the place of the name in the place of the directory. -/
theorem placeOf_join (files : FileSystem) (path : Path) {name : String} (h : Path.IsProper name) :
    files.placeOf (path.join name) = files.placeOf path ++ [name] := by
  have hown : Path.pieces name.toList = [name.toList] := Path.pieces_of_not_mem h.slash
  unfold Path.join
  split
  case h_1 hlast =>
    have hempty : path.text.toList = [] := List.getLast?_eq_none_iff.mp hlast
    have hrelative : (name.toList.head? == some '/') = false := by
      cases hhead : name.toList.head? with
      | none => rfl
      | some c =>
        have hmem := List.mem_of_mem_head? hhead
        have hne : c ≠ '/' := fun heq => h.slash (heq ▸ hmem)
        simpa using hne
    simp [placeOf, origin, Path.isAbsolute, Path.names, hempty, hrelative, hown, reach_proper _ h, Path.pieces, reach]
  case h_2 hlast =>
    -- The path ends with a slash: its last name is empty and leads nowhere else.
    obtain ⟨front, hfront⟩ := List.getLast?_eq_some_iff.mp hlast
    have hnames : Path.names ⟨path.text ++ name⟩ = (Path.pieces front).map String.ofList ++ [name] := by
      simp [Path.names, hfront, Path.pieces_append_slash, hown]
    have hdirectory : path.names = (Path.pieces front).map String.ofList ++ [""] := by
      simp [Path.names, hfront, Path.pieces_append_slash, Path.pieces]
    have horigin : files.origin ⟨path.text ++ name⟩ = files.origin path := by
      simp [origin, Path.isAbsolute, hfront, List.head?_append]
    rw [placeOf, placeOf, hnames, hdirectory, horigin, reach_append, reach_append, reach_proper _ h]
    rfl
  case h_3 last hslash hlast =>
    have hnames : Path.names ⟨path.text ++ "/" ++ name⟩ = path.names ++ [name] := by
      simp [Path.names, Path.pieces_append_slash, hown]
    have horigin : files.origin ⟨path.text ++ "/" ++ name⟩ = files.origin path := by
      have hne : path.text.toList ≠ [] := by
        intro hempty
        simp [hempty] at hlast
      simp [origin, Path.isAbsolute, List.head?_append, List.head?_eq_some_head hne]
    rw [placeOf, placeOf, hnames, horigin, reach_append, reach_proper _ h]

/-! ## Changes -/

/-- One file system is another one with texts at some places, and with new directories at the places of some paths. -/
structure Changes (filled : List Place) (created : Path → Prop) (files later : FileSystem) : Prop where
  current : later.current = files.current
  file : ∀ place ∈ filled, files.entry? place ≠ some .directory ∧ ∃ text, later.entry? place = some (.text text)
  entry : ∀ place, place ∉ filled → later.entry? place = files.entry? place ∨
    files.entry? place = none ∧ later.entry? place = some .directory ∧
      ∃ directory, created directory ∧ files.placeOf directory = place

namespace Changes

variable {last : FileSystem} {filled more : List Place} {created createdMore : Path → Prop}

theorem refl (created : Path → Prop) (files : FileSystem) : Changes [] created files files :=
  ⟨rfl, List.forall_mem_nil _, fun _ _ => .inl rfl⟩

theorem mono (h : Changes filled created files later) (hsub : ∀ directory, created directory → createdMore directory) :
    Changes filled createdMore files later where
  current := h.current
  file := h.file
  entry place hplace := by
    rcases h.entry place hplace with hsame | ⟨hnone, hnew, directory, hcreated, rfl⟩
    · exact .inl hsame
    · exact .inr ⟨hnone, hnew, directory, hsub _ hcreated, rfl⟩

theorem origin (h : Changes filled created files later) (path : Path) : later.origin path = files.origin path := by
  rw [FileSystem.origin, FileSystem.origin, h.current]

/-- Which place a path names does not change. -/
theorem placeOf (h : Changes filled created files later) (path : Path) : later.placeOf path = files.placeOf path := by
  rw [FileSystem.placeOf, FileSystem.placeOf, h.origin]

/-- What is no directory stays none. -/
theorem ne_directory (h : Changes filled created files later) {place : Place} {entry : Entry}
    (hentry : files.entry? place = some entry) (hne : entry ≠ .directory) :
    ∃ other, later.entry? place = some other ∧ other ≠ .directory := by
  by_cases hplace : place ∈ filled
  · obtain ⟨-, text, htext⟩ := h.file place hplace
    exact ⟨.text text, htext, nofun⟩
  · rcases h.entry place hplace with hsame | ⟨hnone, -⟩
    · exact ⟨entry, hsame.trans hentry, hne⟩
    · simp [hentry] at hnone

/-- What there was is still there, where no text took its place. -/
theorem keeps (h : Changes filled created files later) : Keeps filled files later where
  current := h.current
  directory place hdirectory := by
    rcases h.entry place fun hmem => (h.file place hmem).1 hdirectory with hsame | ⟨hnone, -⟩
    · exact hsame.trans hdirectory
    · simp [hdirectory] at hnone
  entry place entry hplace hentry := by
    rcases h.entry place hplace with hsame | ⟨hnone, -⟩
    · exact hsame.trans hentry
    · simp [hentry] at hnone

/-- At a place that is not filled there is the same file as before, or none as before. -/
theorem file_iff (h : Changes filled created files later) {place : Place} (hplace : place ∉ filled) {entry : Entry}
    (hne : entry ≠ .directory) : later.entry? place = some entry ↔ files.entry? place = some entry := by
  rcases h.entry place hplace with hsame | ⟨hnone, hnew, -⟩
  · rw [hsame]
  · simp [hnone, hnew, hne.symm]

theorem trans (h : Changes filled created files later) (hmore : Changes more createdMore later last) :
    Changes (filled ++ more) (fun directory => created directory ∨ createdMore directory) files last where
  current := hmore.current.trans h.current
  file place hplace := by
    constructor
    · intro hdirectory
      -- A directory would still be there when the place is filled.
      by_cases hfilled : place ∈ filled
      · exact (h.file place hfilled).1 hdirectory
      · have hkept : later.entry? place = some .directory := by
          rcases h.entry place hfilled with hsame | ⟨-, hnew, -⟩
          · exact hsame.trans hdirectory
          · exact hnew
        exact (hmore.file place ((List.mem_append.mp hplace).resolve_left hfilled)).1 hkept
    · -- A text put in by the first change is still a text, if the second does not put in another.
      by_cases hagain : place ∈ more
      · exact (hmore.file place hagain).2
      · obtain ⟨-, text, htext⟩ := h.file place ((List.mem_append.mp hplace).resolve_right hagain)
        rcases hmore.entry place hagain with hsame | ⟨hnone, -⟩
        · exact ⟨text, hsame.trans htext⟩
        · simp [htext] at hnone
  entry place hplace := by
    -- Elsewhere a place is created by one of the changes, and the other leaves it as it is.
    obtain ⟨hfilled, hagain⟩ := not_or.mp (mt List.mem_append.mpr hplace)
    rcases hmore.entry place hagain with hsame | ⟨hnone, hnew, directory, hcreated, rfl⟩
    · rcases h.entry place hfilled with hbefore | ⟨hnone, hnew, directory, hcreated, rfl⟩
      · exact .inl (hsame.trans hbefore)
      · exact .inr ⟨hnone, hsame.trans hnew, directory, .inl hcreated, rfl⟩
    · rcases h.entry _ hfilled with hbefore | ⟨-, hdirectory, -⟩
      · exact .inr ⟨hbefore.symm.trans hnone, hnew, directory, .inr hcreated, (h.placeOf directory).symm⟩
      · simp [hdirectory] at hnone

end Changes

/-! ## Steps -/

/-- What is written at a path fills the place that the path names. -/
theorem changes_of_write {path : Path} {text : String} (h : files.write path (.text text) = .ok later)
    (created : Path → Prop) :
    Changes [files.placeOf path] created files later ∧ later.entry? (files.placeOf path) = some (.text text) := by
  obtain ⟨place, htarget, -, hentry, rfl⟩ := write_eq_ok_iff.mp h
  have hne : place ≠ [] := by
    rintro rfl
    exact hentry rfl
  rw [placeOf_of_target htarget rfl]
  have hput : entry? (files.put place (.text text)) place = some (.text text) := by rw [entry?_put _ hne, if_pos rfl]
  refine ⟨⟨rfl, fun other hother => ?_, fun other hother => .inl ?_⟩, hput⟩
  · obtain rfl := List.mem_singleton.mp hother
    exact ⟨hentry, text, hput⟩
  · rw [entry?_put _ hne, if_neg (by simpa using hother)]

theorem changes_of_createDirectory {path : Path} (h : files.createDirectory path = .ok later) :
    Changes [] (· = path) files later := by
  obtain ⟨result, slot, htarget, hslot, -, hentry, rfl⟩ := createDirectory_eq_ok_iff.mp h
  have hne : slot ≠ [] := by
    rintro rfl
    simp [ entry?] at hentry
  refine ⟨rfl, List.forall_mem_nil _, fun place _ => ?_⟩
  rw [entry?_put _ hne]
  split
  case isTrue hsame => exact .inr ⟨hsame ▸ hentry, rfl, path, rfl, hsame ▸ placeOf_of_target htarget hslot⟩
  case isFalse => exact .inl rfl

theorem changes_of_ensureDirectory {path : Path} (h : files.ensureDirectory path = .ok later) :
    Changes [] (· = path) files later := by
  rw [ensureDirectory] at h
  split at h
  case h_1 created hcreated =>
    obtain rfl := Except.ok.inj h
    exact changes_of_createDirectory hcreated
  case h_2 fault hfault =>
    split at h
    case isTrue hdirectory =>
      obtain rfl := Except.ok.inj h
      exact Changes.refl _ files
    case isFalse => contradiction

/-- Directories are created at a path and above it only, also if that fails on the way. -/
theorem changes_of_createDirectories (files : FileSystem) (path : Path) :
    Changes [] (fun directory => directory = path ∨ directory.IsAbove path) files (files.createDirectories path).1 := by
  fun_induction createDirectories files path with
  -- The directory is there, or it is the only one that is missing.
  | case2 path hempty later hlater => exact (changes_of_ensureDirectory hlater).mono fun _ => .inl
  -- Creating the parent fails, and what it has created by then is above the parent.
  | case4 path hempty hmissing parent hparent hshorter later fault hcreate ih =>
    rw [hcreate] at ih
    exact ih.mono fun _ hcreated => .inr (.of_parent hparent hcreated)
  | case5 path hempty hmissing parent hparent hshorter between hcreate later hlater ih =>
    rw [hcreate] at ih
    -- The parent is created, and then the directory in it.
    refine (ih.trans (changes_of_ensureDirectory hlater)).mono fun directory hcreated => ?_
    rcases hcreated with hbefore | hnow
    · exact .inr (.of_parent hparent hbefore)
    · exact .inl hnow
  | case6 path hempty hmissing parent hparent hshorter later hcreate fault hfault ih =>
    rw [hcreate] at ih
    exact ih.mono fun _ hcreated => .inr (.of_parent hparent hcreated)
  -- In the other cases nothing is created, on the way or at the path.
  | case1 | case3 | case7 | case8 => exact Changes.refl _ _

/-! ## Storing -/

theorem ParentCreated.changes {path : Path} (h : ParentCreated path files later) :
    Changes [] (·.IsAbove path) files later := by
  unfold ParentCreated at h
  cases hparent : path.parent? with
  | none =>
    rw [hparent] at h
    subst h
    exact Changes.refl _ _
  | some parent =>
    rw [hparent] at h
    have hchanges := files.changes_of_createDirectories parent
    rw [h] at hchanges
    exact hchanges.mono fun _ hcreated => .of_parent hparent hcreated

/-- A text that is stored at a path fills the place that the path names, and the directories above it may be new. -/
theorem Stored.changes {path : Path} {text : String} (h : Stored path text files later) :
    Changes [files.placeOf path] (·.IsAbove path) files later ∧
      later.entry? (files.placeOf path) = some (.text text) := by
  obtain ⟨between, hparent, hwrite⟩ := h
  have hcreated := hparent.changes
  obtain ⟨hchanges, hentry⟩ := changes_of_write hwrite (·.IsAbove path)
  rw [hcreated.placeOf] at hchanges hentry
  exact ⟨(hcreated.trans hchanges).mono fun _ => or_self_iff.mp, hentry⟩

/-- A text that was stored is found at the place that its path names, and other places keep what they hold. -/
theorem Stored.find {path : Path} {text : String} (h : Stored path text files later) :
    later.find path = .ok (files.placeOf path, .text text) ∧ Keeps [files.placeOf path] files later := by
  obtain ⟨place, hfind, hkeeps, -⟩ := h.spec
  rw [← h.changes.1.placeOf, placeOf_of_find hfind]
  exact ⟨hfind, hkeeps⟩

/-- Another text can be stored where one was stored, as long as no directory takes its place. -/
theorem Stored.again {path : Path} {text : String} (h : Stored path text files later) {places : List Place}
    {last : FileSystem} (hkeeps : Keeps places later last)
    (hentry : last.entry? (files.placeOf path) ≠ some .directory) (other : String) :
    Stored path other last (last.put (files.placeOf path) (.text other)) := by
  obtain ⟨place, hfind, -, hagain⟩ := h.spec
  rw [← h.changes.1.placeOf, placeOf_of_find hfind] at hentry ⊢
  exact hagain places last hkeeps hentry other

end FileSystem

open FileSystem

/-- A document that could not be stored may leave directories above its path, and nothing else. -/
theorem changes_of_perform_writeDocument {path : Path} {text : String} {error : DocumentError} {files later : FileSystem}
    (h : perform (writeDocument path text) files = (.error error, later)) :
    Changes [] (·.IsAbove path) files later := by
  unfold writeDocument at h
  cases hparent : path.parent? with
  | none =>
    simp only [hparent, perform_mapError_eq_error_iff, perform_writeText_eq_error_iff] at h
    obtain ⟨fault, -, -, rfl⟩ := h
    exact Changes.refl _ _
  | some parent =>
    have hcreated := (files.changes_of_createDirectories parent).mono fun _ => Path.IsAbove.of_parent hparent
    by_cases hempty : parent.text = ""
    · simp only [hparent, ne_eq, hempty, not_true_eq_false, ↓reduceIte, perform_mapError_eq_error_iff,
        perform_writeText_eq_error_iff] at h
      obtain ⟨fault, -, -, rfl⟩ := h
      exact Changes.refl _ _
    · simp only [hparent, ne_eq, hempty, not_false_eq_true, ↓reduceIte, perform_bind_eq_error_iff,
        perform_mapError_eq_error_iff, perform_mapError_eq_ok_iff, perform_createDirectories_eq_error_iff,
        perform_createDirectories_eq_ok_iff, perform_writeText_eq_error_iff] at h
      -- The directories fail, or they are created and the writing fails.
      rcases h with ⟨fault, -, hfail⟩ | ⟨-, between, hcreate, fault, -, -, rfl⟩
      · rwa [hfail] at hcreated
      · rwa [hcreate] at hcreated

end Highlighter
