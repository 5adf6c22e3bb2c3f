import Highlighter.Files.FileSystem
import Mathlib.Tactic.SplitIfs

/-!
# What changes keep

Files are written and directories are created, and whatever else there was stays. Main statements: what is written at a
path is found there; a directory that was created is there; and what other paths lead to is still what they lead to.

A path is followed through directories. A change never takes a directory away, so each path that led somewhere leads to
the same place.
-/

namespace Highlighter

namespace FileSystem

/-! ## Entries -/

/-- An entry at another place is found behind those that are left out. -/
theorem lookup_filter_ne {place other : Place} (h : other ≠ place) (entries : List (Place × Entry)) :
    (entries.filter (·.1 ≠ place)).lookup other = entries.lookup other := by
  induction entries with
  | nil => rfl
  | cons entry entries ih =>
    by_cases hentry : entry.1 = place
    · have hne : (other == entry.1) = false := beq_eq_false_iff_ne.mpr (hentry ▸ h)
      rw [List.filter_cons_of_neg (by simp [hentry]), ih, List.lookup_cons, hne]
    · rw [List.filter_cons_of_pos (by simp [hentry]), List.lookup_cons, List.lookup_cons, ih]

theorem entry?_of_ne_nil (files : FileSystem) {place : Place} (h : place ≠ []) :
    files.entry? place = files.entries.lookup place := by
  cases place with
  | nil => exact absurd rfl h
  | cons name names => rfl

theorem entry?_put (files : FileSystem) {place : Place} (h : place ≠ []) (entry : Entry) (other : Place) :
    entry? (files.put place entry) other = if other = place then some entry else files.entry? other := by
  by_cases hnil : other = []
  · subst hnil
    rw [if_neg h.symm]
    rfl
  · rw [entry?_of_ne_nil _ hnil, entry?_of_ne_nil _ hnil, put, List.lookup_cons]
    by_cases hsame : other = place
    · simp [hsame]
    · have hne : (other == place) = false := beq_eq_false_iff_ne.mpr hsame
      rw [hne, if_neg hsame]
      exact lookup_filter_ne hsame files.entries

variable {files : FileSystem}

theorem ne_nil_of_text {place : Place} {text : String} (h : files.entry? place = some (.text text)) : place ≠ [] := by
  rintro rfl
  simp [ entry?] at h

/-! ## Following names -/

theorem follow_append (files : FileSystem) (place : Place) (names more : List String) :
    files.follow place (names ++ more) = (files.follow place names).bind fun other => files.follow other more := by
  induction names generalizing place with
  | nil => rfl
  | cons name names ih =>
    rw [List.cons_append, follow, follow]
    repeat' split
    all_goals first | rfl | exact ih _

theorem follow_append_eq_ok_iff {place other : Place} {names more : List String} :
    files.follow place (names ++ more) = .ok other ↔
      ∃ between, files.follow place names = .ok between ∧ files.follow between more = .ok other := by
  rw [follow_append]
  cases files.follow place names with
  | error fault => simp [Except.bind]
  | ok between => simp [Except.bind]

/-- Names are followed from a directory only. -/
theorem entry?_of_follow_cons {place other : Place} {name : String} {names : List String}
    (h : files.follow place (name :: names) = .ok other) : files.entry? place = some .directory := by
  rw [follow] at h
  split at h
  · contradiction
  · assumption
  · contradiction

/-- A name that neither stays nor leads back leads into a directory, if it is no longer than names may be. -/
theorem follow_name {directory : Place} (h : files.entry? directory = some .directory) {name : String}
    (hname : name ∉ ["", ".", ".."]) (names : List String) :
    files.follow directory (name :: names) =
      if name.utf8ByteSize > maxName then .error .nameTooLong else files.follow (directory ++ [name]) names := by
  have hne : (¬name = "" ∧ ¬name = ".") ∧ ¬name = ".." := by simpa [and_assoc] using hname
  simp [follow, h, hne]

theorem follow_blanks {place : Place} (h : files.entry? place = some .directory) (count : Nat) :
    files.follow place (List.replicate count "") = .ok place := by
  induction count with
  | zero => rfl
  | succ count ih => simp [List.replicate_succ, follow, h, ih]

/-! ## What a path leads to -/

theorem find_eq_ok_iff {path : Path} {place : Place} {entry : Entry} :
    files.find path = .ok (place, entry) ↔ checkPath path = .ok () ∧
      files.follow (files.origin path) path.names = .ok place ∧ files.entry? place = some entry := by
  rw [find]
  cases checkPath path with
  | error fault => simp [bind, Except.bind]
  | ok checked =>
    cases hfollow : files.follow (files.origin path) path.names with
    | error fault => simp [bind, Except.bind]
    | ok other =>
      simp only [bind, Except.bind, Except.ok.injEq, true_and]
      cases hentry : files.entry? other <;> grind

theorem isDirectory_iff {path : Path} :
    files.isDirectory path = true ↔ ∃ place, files.find path = .ok (place, .directory) := by
  rw [isDirectory]
  split
  · next place hfind => simp [hfind]
  · next hnot =>
    simp only [Bool.false_eq_true, false_iff, not_exists]
    exact hnot

/-! ## Targets -/

namespace Target

/-- The place that may be filled. -/
def slot? : Target → Option Place
  | .place slot => some slot
  | .slashed slot => some slot
  | .here => none

end Target

/-- The empty names at the end of a list are what is behind the last other name. -/
theorem exists_blanks_of_dropWhile {names before : List String} {last : String}
    (h : names.reverse.dropWhile (· = "") = last :: before) :
    last ≠ "" ∧ ∃ count, names = before.reverse ++ last :: List.replicate count "" ∧
      (names.reverse.head? ≠ some "" → count = 0) := by
  have hhead := List.head?_dropWhile_not (· = "") names.reverse
  rw [h] at hhead
  -- The empty names at the end are what the reversed list begins with.
  have hblanks : ∀ name ∈ names.reverse.takeWhile (· = ""), name = "" := by
    intro name hname
    simpa using List.all_eq_true.mp List.all_takeWhile name hname
  have hsplit := List.takeWhile_append_dropWhile (p := (· = "")) (l := names.reverse)
  rw [h, List.eq_replicate_of_mem hblanks] at hsplit
  refine ⟨by simpa using hhead, (names.reverse.takeWhile (· = "")).length, ?_, ?_⟩
  · have hreverse := congrArg List.reverse hsplit
    simpa using hreverse.symm
  · -- If the last name is not empty, then there is nothing to drop.
    intro hnot
    cases hcount : (names.reverse.takeWhile (· = "")).length with
    | zero => rfl
    | succ count =>
      rw [hcount, List.replicate_succ] at hsplit
      rw [← hsplit] at hnot
      simp at hnot

/-- A place to be filled is that of the last name of a path, in the directory that the names before it lead to. Behind
the name there are slashes only. -/
theorem exists_names_of_target {path : Path} {result : Target} {slot : Place} (h : files.target path = .ok result)
    (hslot : result.slot? = some slot) :
    checkPath path = .ok () ∧ ∃ before last count directory, path.names = before ++ last :: List.replicate count "" ∧
      last ∉ ["", ".", ".."] ∧ files.follow (files.origin path) before = .ok directory ∧
      files.entry? directory = some .directory ∧ slot = directory ++ [last] ∧ (result = .place slot → count = 0) := by
  rw [target] at h
  cases hcheck : checkPath path with
  | error fault => simp [hcheck, bind, Except.bind] at h
  | ok checked =>
    simp only [hcheck, bind, Except.bind] at h
    split at h
    · -- A path of empty names leads to where it begins, where nothing is to be filled.
      obtain rfl := Except.ok.inj h
      simp [Target.slot?] at hslot
    · next last before hnames =>
      -- Otherwise the last name that is not empty is the one to be filled.
      obtain ⟨hne, count, hpath, hcount⟩ := exists_blanks_of_dropWhile hnames
      cases hfollow : files.follow (files.origin path) (before.reverse ++ ["."]) with
      | error fault => simp [hfollow] at h
      | ok directory =>
        -- The names before it are followed to a directory; the dot behind them says no more than that.
        obtain ⟨between, hbefore, hdot⟩ := follow_append_eq_ok_iff.mp hfollow
        have hdirectory := entry?_of_follow_cons hdot
        obtain rfl : between = directory := by simpa [follow, hdirectory] using hdot
        simp only [hfollow] at h
        split at h
        case isTrue hdots =>
          -- Dots are no name to be filled.
          obtain rfl := Except.ok.inj h
          simp [Target.slot?] at hslot
        case isFalse hdots =>
          refine ⟨rfl, before.reverse, last, count, between, hpath, by simp_all, hbefore, hdirectory, ?_⟩
          -- A slash behind the name is kept in the result, and nothing else stands there.
          split at h
          case isTrue hslash =>
            obtain rfl := Except.ok.inj h
            refine ⟨by simpa [Target.slot?] using hslot.symm, by simp⟩
          case isFalse hslash =>
            obtain rfl := Except.ok.inj h
            exact ⟨by simpa [Target.slot?] using hslot.symm, fun _ => hcount hslash⟩

/-! ## What is kept -/

/-- One file system has what another one has, apart from what stands at some places. What is a directory stays one
also there. -/
structure Keeps (places : List Place) (files later : FileSystem) : Prop where
  current : later.current = files.current
  directory : ∀ place, files.entry? place = some .directory → later.entry? place = some .directory
  entry : ∀ place entry, place ∉ places → files.entry? place = some entry → later.entry? place = some entry

namespace Keeps

variable {later last : FileSystem} {places more : List Place}

theorem refl (places : List Place) (files : FileSystem) : Keeps places files files :=
  ⟨rfl, fun _ h => h, fun _ _ _ h => h⟩

theorem trans (h : Keeps places files later) (hmore : Keeps more later last) : Keeps (places ++ more) files last where
  current := hmore.current.trans h.current
  directory place hplace := hmore.directory place (h.directory place hplace)
  entry place entry hplace hentry := by
    obtain ⟨hnot, hnotMore⟩ := not_or.mp (mt List.mem_append.mpr hplace)
    exact hmore.entry place entry hnotMore (h.entry place entry hnot hentry)

/-- What is put where there is no directory takes none away. -/
theorem put {place : Place} (h : files.entry? place ≠ some .directory) (entry : Entry) :
    Keeps [place] files (files.put place entry) := by
  -- The top is a directory, so it is not the place.
  have hne : place ≠ [] := by
    rintro rfl
    exact h rfl
  refine ⟨rfl, fun other hother => ?_, fun other old hother hold => ?_⟩
  · rw [entry?_put _ hne, if_neg]
    · exact hother
    · rintro rfl
      exact h hother
  · rw [entry?_put _ hne, if_neg (by simpa using hother)]
    exact hold

/-- What is put where there is nothing takes nothing away. -/
theorem put_new {place : Place} (h : files.entry? place = none) (entry : Entry) :
    Keeps [] files (files.put place entry) := by
  have hnot : files.entry? place ≠ some .directory := by simp [h]
  have hput := put hnot entry
  refine ⟨hput.current, hput.directory, fun other old _ hold => hput.entry other old ?_ hold⟩
  intro hmem
  simp [List.mem_singleton.mp hmem, h] at hold

variable (h : Keeps places files later)
include h

theorem origin (path : Path) : later.origin path = files.origin path := by
  rw [FileSystem.origin, FileSystem.origin, h.current]

/-- Names that could be followed still lead to the same place. -/
theorem follow {place other : Place} {names : List String} (hfollow : files.follow place names = .ok other) :
    later.follow place names = .ok other := by
  induction names generalizing place with
  | nil => exact hfollow
  | cons name names ih =>
    have hplace := entry?_of_follow_cons hfollow
    simp only [FileSystem.follow, hplace, h.directory place hplace] at hfollow ⊢
    split_ifs at hfollow ⊢
    · exact ih hfollow
    · exact ih hfollow
    · exact ih hfollow

theorem target {path : Path} {result : Target} (htarget : files.target path = .ok result) :
    later.target path = .ok result := by
  unfold FileSystem.target at htarget ⊢
  cases hcheck : checkPath path with
  | error fault => simp [hcheck, bind, Except.bind] at htarget
  | ok checked =>
    simp only [hcheck, bind, Except.bind, h.origin] at htarget ⊢
    split at htarget
    · exact htarget
    · next last before _ =>
      -- A path is followed on the later files to where it led before, since the directories on its way are kept.
      cases hfollow : files.follow (files.origin path) (before.reverse ++ ["."]) with
      | error fault => simp [hfollow] at htarget
      | ok directory =>
        rw [hfollow] at htarget
        rw [h.follow hfollow]
        exact htarget

/-- A path still leads to its place, whatever stands there now. -/
theorem find_entry {path : Path} {place : Place} {old entry : Entry} (hfind : files.find path = .ok (place, old))
    (hentry : later.entry? place = some entry) : later.find path = .ok (place, entry) := by
  obtain ⟨hcheck, hfollow, -⟩ := find_eq_ok_iff.mp hfind
  exact find_eq_ok_iff.mpr ⟨hcheck, by rw [h.origin, h.follow hfollow], hentry⟩

theorem find {path : Path} {place : Place} {entry : Entry} (hfind : files.find path = .ok (place, entry))
    (hplace : place ∉ places) : later.find path = .ok (place, entry) := by
  obtain ⟨-, -, hentry⟩ := find_eq_ok_iff.mp hfind
  exact h.find_entry hfind (h.entry place entry hplace hentry)

theorem isDirectory {path : Path} (hpath : files.isDirectory path = true) : later.isDirectory path = true := by
  obtain ⟨place, hfind⟩ := isDirectory_iff.mp hpath
  obtain ⟨-, -, hentry⟩ := find_eq_ok_iff.mp hfind
  exact isDirectory_iff.mpr ⟨place, h.find_entry hfind (h.directory place hentry)⟩

end Keeps

/-! ## Filling a place -/

/-- What is at a place to be filled is what the path leads to, if it stands there with no slash behind it or is a directory. -/
theorem find_of_target {path : Path} {result : Target} {slot : Place} (h : files.target path = .ok result)
    (hslot : result.slot? = some slot) (hlong : isTooLong slot = false) {entry : Entry}
    (hentry : files.entry? slot = some entry) (hkind : result = .place slot ∨ entry = .directory) :
    files.find path = .ok (slot, entry) := by
  obtain ⟨hcheck, before, last, count, directory, hnames, hlast, hbefore, hdirectory, rfl, hcount⟩ :=
    exists_names_of_target h hslot
  have hsize : ¬last.utf8ByteSize > maxName := by simpa [isTooLong] using hlong
  refine find_eq_ok_iff.mpr ⟨hcheck, ?_, hentry⟩
  rw [hnames]
  refine follow_append_eq_ok_iff.mpr ⟨directory, hbefore, ?_⟩
  rw [follow_name hdirectory hlast, if_neg hsize]
  -- With no slash behind the name the path ends there; behind a directory slashes lead nowhere else.
  rcases hkind with hplace | rfl
  · rw [hcount hplace]
    rfl
  · exact follow_blanks hentry count

/-- A path that leads to something has something at its place to be filled. -/
theorem isSome_entry?_of_target {path : Path} {result : Target} {slot place : Place} {entry : Entry}
    (h : files.target path = .ok result) (hslot : result.slot? = some slot)
    (hfind : files.find path = .ok (place, entry)) : (files.entry? slot).isSome = true := by
  obtain ⟨-, before, last, count, directory, hnames, hlast, hbefore, hdirectory, rfl, -⟩ := exists_names_of_target h hslot
  obtain ⟨-, hfollow, hentry⟩ := find_eq_ok_iff.mp hfind
  rw [hnames] at hfollow
  obtain ⟨between, hbetween, hrest⟩ := follow_append_eq_ok_iff.mp hfollow
  obtain rfl : directory = between := Except.ok.inj (hbefore.symm.trans hbetween)
  rw [follow_name hdirectory hlast] at hrest
  split at hrest
  · contradiction
  · cases count with
    | zero =>
      obtain rfl : directory ++ [last] = place := Except.ok.inj hrest
      rw [hentry]
      rfl
    | succ count =>
      -- A slash behind the name needs a directory there.
      rw [List.replicate_succ] at hrest
      rw [entry?_of_follow_cons hrest]
      rfl

theorem write_eq_ok_iff {later : FileSystem} {path : Path} {content : Entry} :
    files.write path content = .ok later ↔ ∃ place, files.target path = .ok (.place place) ∧
      isTooLong place = false ∧ files.entry? place ≠ some .directory ∧ later = files.put place content := by
  rw [write]
  cases files.target path with
  | error fault => simp [bind, Except.bind]
  | ok result =>
    cases result with
    | place slot =>
      -- A name that is too long is refused, and so is a directory in the place of the file.
      simp only [bind, Except.bind, Except.ok.injEq, Target.place.injEq, exists_eq_left']
      cases hlong : isTooLong slot with
      | true => simp
      | false => by_cases hentry : files.entry? slot = some .directory <;> simp [hentry, eq_comm (a := later)]
    -- Where a slash or dots end the path, there is no file to write.
    | slashed slot => simp [bind, Except.bind]
    | here => simp [bind, Except.bind]

theorem createDirectory_eq_ok_iff {later : FileSystem} {path : Path} :
    files.createDirectory path = .ok later ↔ ∃ result slot, files.target path = .ok result ∧ result.slot? = some slot ∧
      isTooLong slot = false ∧ files.entry? slot = none ∧ later = files.put slot .directory := by
  rw [createDirectory]
  cases files.target path with
  | error fault => simp [bind, Except.bind]
  | ok result =>
    cases result with
    | place slot | slashed slot =>
      -- A slash behind the name is no hindrance for a directory.
      simp only [bind, Except.bind, Except.ok.injEq, Target.slot?]
      cases hlong : isTooLong slot with
      | true => simp [hlong]
      | false => cases hentry : files.entry? slot <;> simp [hlong, hentry, eq_comm (a := later)]
    | here => simp [bind, Except.bind, Target.slot?]

/-- What is written at a path is found there, and only what stood at its place is gone. -/
theorem find_write {later : FileSystem} {path : Path} {content : Entry} (h : files.write path content = .ok later) :
    ∃ place, files.target path = .ok (.place place) ∧ isTooLong place = false ∧
      later.find path = .ok (place, content) ∧ Keeps [place] files later := by
  obtain ⟨place, htarget, hlong, hentry, rfl⟩ := write_eq_ok_iff.mp h
  have hkeeps := Keeps.put hentry content
  have hne : place ≠ [] := by
    rintro rfl
    exact hentry rfl
  refine ⟨place, htarget, hlong, find_of_target (hkeeps.target htarget) rfl hlong ?_ (.inl rfl), hkeeps⟩
  rw [entry?_put _ hne, if_pos rfl]

/-- A text is read exactly if the path leads to it. -/
theorem readText_eq_ok_iff {path : Path} {text : String} :
    files.readText path = .ok text ↔ ∃ place, files.find path = .ok (place, .text text) := by
  rw [readText]
  cases files.find path with
  | error fault => simp [bind, Except.bind]
  | ok found =>
    obtain ⟨place, entry⟩ := found
    cases entry <;> simp [bind, Except.bind]

theorem readText_of_find {path : Path} {place : Place} {text : String} (h : files.find path = .ok (place, .text text)) :
    files.readText path = .ok text :=
  readText_eq_ok_iff.mpr ⟨place, h⟩

theorem isPresent_iff {path : Path} : files.isPresent path = true ↔ ∃ found, files.find path = .ok found := by
  rw [isPresent]
  cases files.find path <;> simp

/-- A text that can be read is present. -/
theorem isPresent_of_readText {path : Path} {text : String} (h : files.readText path = .ok text) :
    files.isPresent path = true := by
  obtain ⟨place, hfind⟩ := readText_eq_ok_iff.mp h
  exact isPresent_iff.mpr ⟨_, hfind⟩

/-! ## Creating directories -/

theorem createDirectory_spec {later : FileSystem} {path : Path} (h : files.createDirectory path = .ok later) :
    Keeps [] files later ∧ later.isDirectory path = true := by
  obtain ⟨result, slot, htarget, hslot, hlong, hentry, rfl⟩ := createDirectory_eq_ok_iff.mp h
  have hkeeps := Keeps.put_new hentry .directory
  have hne : slot ≠ [] := by
    rintro rfl
    simp [ entry?] at hentry
  refine ⟨hkeeps, isDirectory_iff.mpr ⟨slot, ?_⟩⟩
  apply find_of_target (hkeeps.target htarget) hslot hlong _ (.inr rfl)
  rw [entry?_put _ hne, if_pos rfl]

theorem ensureDirectory_spec {later : FileSystem} {path : Path} (h : files.ensureDirectory path = .ok later) :
    Keeps [] files later ∧ later.isDirectory path = true := by
  rw [ensureDirectory] at h
  split at h
  case h_1 created hcreated =>
    obtain rfl := Except.ok.inj h
    exact createDirectory_spec hcreated
  case h_2 fault hfault =>
    split at h
    case isTrue hdirectory =>
      obtain rfl := Except.ok.inj h
      exact ⟨Keeps.refl [] files, hdirectory⟩
    case isFalse => contradiction

/-- A directory that is there is not created. -/
theorem ensureDirectory_of_isDirectory {path : Path} (h : files.isDirectory path = true) :
    files.ensureDirectory path = .ok files := by
  obtain ⟨place, hfind⟩ := isDirectory_iff.mp h
  rw [ensureDirectory]
  split
  case h_1 created hcreated =>
    obtain ⟨result, slot, htarget, hslot, -, hentry, -⟩ := createDirectory_eq_ok_iff.mp hcreated
    have hsome := isSome_entry?_of_target htarget hslot hfind
    simp [hentry] at hsome
  case h_2 fault hfault => rw [if_pos h]

/-- Creating directories takes nothing away, also if it fails on the way, and if it does not, the directory is there. -/
theorem createDirectories_spec (files : FileSystem) (path : Path) :
    Keeps [] files (files.createDirectories path).1 ∧
      ((files.createDirectories path).2 = .ok () → path.text ≠ "" →
        (files.createDirectories path).1.isDirectory path = true) := by
  fun_induction createDirectories files path with
  | case1 path hempty => exact ⟨Keeps.refl [] files, fun _ hne => absurd hempty hne⟩
  | case2 path hempty later hlater =>
    obtain ⟨hkeeps, hdirectory⟩ := ensureDirectory_spec hlater
    exact ⟨hkeeps, fun _ _ => hdirectory⟩
  | case4 path hempty hmissing parent hparent hshorter later fault hcreate ih =>
    rw [hcreate] at ih
    exact ⟨ih.1, nofun⟩
  | case5 path hempty hmissing parent hparent hshorter between hcreate later hlater ih =>
    -- Once the directory around it is there, the directory itself is created.
    rw [hcreate] at ih
    obtain ⟨hkeeps, hdirectory⟩ := ensureDirectory_spec hlater
    exact ⟨ih.1.trans hkeeps, fun _ _ => hdirectory⟩
  | case6 path hempty hmissing parent hparent hshorter later hcreate fault hfault ih =>
    rw [hcreate] at ih
    exact ⟨ih.1, nofun⟩
  | case3 | case7 | case8 => exact ⟨Keeps.refl [] _, nofun⟩

theorem createDirectories_of_isDirectory {path : Path} (h : path.text ≠ "" → files.isDirectory path = true) :
    files.createDirectories path = (files, .ok ()) := by
  unfold createDirectories
  by_cases hempty : path.text = ""
  · rw [if_pos hempty]
  · rw [if_neg hempty, ensureDirectory_of_isDirectory (h hempty)]

theorem createDirectories_of_ensureDirectory {later : FileSystem} {path : Path} (hne : path.text ≠ "")
    (h : files.ensureDirectory path = .ok later) : files.createDirectories path = (later, .ok ()) := by
  rw [createDirectories, if_neg hne, h]

/-- Where the directory around it is missing, a directory is created behind that one. -/
theorem createDirectories_of_missing {between later : FileSystem} {path parent : Path} (hne : path.text ≠ "")
    (hmissing : files.ensureDirectory path = .error .notFound) (hparent : path.parent? = some parent)
    (hshorter : parent.text.length < path.text.length) (hcreate : files.createDirectories parent = (between, .ok ()))
    (h : between.ensureDirectory path = .ok later) : files.createDirectories path = (later, .ok ()) := by
  rw [createDirectories, if_neg hne, hmissing]
  simp only [hparent, dif_pos hshorter, hcreate, h]

/-! ## Comparing -/

/-- Two paths lead to the same place, where there is something. -/
def SamePlace (files : FileSystem) (path other : Path) : Prop :=
  ∃ found, files.find path = .ok found ∧ files.find other = .ok found

theorem not_samePlace {path other : Path} {place elsewhere : Place} {entry entryElsewhere : Entry}
    (hfind : files.find path = .ok (place, entry)) (hother : files.find other = .ok (elsewhere, entryElsewhere))
    (hne : place ≠ elsewhere) : ¬files.SamePlace path other := by
  rintro ⟨found, hfound, hfoundOther⟩
  obtain rfl := Except.ok.inj (hfind.symm.trans hfound)
  exact hne (Prod.mk.inj (Except.ok.inj (hfoundOther.symm.trans hother))).1

/-- One file system has at each place what another one has. -/
structure Same (files later : FileSystem) : Prop where
  current : later.current = files.current
  entry : ∀ place, later.entry? place = files.entry? place

namespace Same

/-- Nothing changes when a place is filled with what it holds. -/
theorem put {place : Place} {entry : Entry} (hne : place ≠ []) (h : files.entry? place = some entry) :
    Same files (files.put place entry) := by
  refine ⟨rfl, fun other => ?_⟩
  rw [entry?_put _ hne]
  split
  case isTrue hsame => rw [hsame, h]
  case isFalse => rfl

variable {later : FileSystem} (h : Same files later)
include h

theorem trans {last : FileSystem} (hmore : Same later last) : Same files last :=
  ⟨hmore.current.trans h.current, fun place => (hmore.entry place).trans (h.entry place)⟩

theorem keeps : Keeps [] files later :=
  ⟨h.current, fun place hplace => (h.entry place).trans hplace, fun place _ _ hplace => (h.entry place).trans hplace⟩

theorem follow (place : Place) (names : List String) : later.follow place names = files.follow place names := by
  induction names generalizing place with
  | nil => rfl
  | cons name names ih => simp only [FileSystem.follow, h.entry, ih]

theorem readText (path : Path) : later.readText path = files.readText path := by
  simp only [FileSystem.readText, find, origin, h.current, h.follow, h.entry]

end Same

end FileSystem

end Highlighter
