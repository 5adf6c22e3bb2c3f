import Highlighter.Proofs.Files.Changes

/-!
# What is absent

A path leads to nothing where a directory on its way is missing, and it may lead to something as soon as that directory is
created. So absence is said of the place that a path would lead to. Main statements: a path that does not lead back is
absent as soon as it leads to nothing, where whatever there is stands in a directory; and where a path may lead after a
change it might lead before.
-/

namespace Highlighter

namespace FileSystem

/-! ## Where a path would lead -/

/-- Whether a place holds a file, so that no name leads on from it. -/
def isFile (files : FileSystem) (place : Place) : Bool :=
  match files.entry? place with
  | none | some .directory => false
  | some _ => true

/-- Follows names as if each directory were there that is missing. -/
def approach? (files : FileSystem) (place : Place) : List String → Option Place
  | [] => some place
  | name :: names =>
    if files.isFile place then none
    else if name = "" ∨ name = "." then files.approach? place names
    else if name = ".." then files.approach? place.dropLast names
    else if name.utf8ByteSize > maxName then none
    else files.approach? (place ++ [name]) names

/-- The place that a path leads to once each directory on its way is there, if it may lead to any. -/
def prospect? (files : FileSystem) (path : Path) : Option Place :=
  match checkPath path with
  | .error _ => none
  | .ok _ => files.approach? (files.origin path) path.names

variable {files later : FileSystem}

theorem isFile_eq_false_iff {place : Place} :
    files.isFile place = false ↔ files.entry? place = none ∨ files.entry? place = some .directory := by
  unfold isFile
  split <;> simp_all

theorem reach_of_approach? {place other : Place} {names : List String} (h : files.approach? place names = some other) :
    reach place names = other := by
  induction names generalizing place with
  | nil => exact Option.some.inj h
  | cons name names ih =>
    rw [approach?] at h
    rw [reach]
    split_ifs at h ⊢ <;> exact ih h

/-- A path may lead to no other place than the one that it names. -/
theorem placeOf_of_prospect? {path : Path} {place : Place} (h : files.prospect? path = some place) :
    files.placeOf path = place := by
  rw [prospect?] at h
  split at h
  · contradiction
  · exact reach_of_approach? h

theorem approach?_of_follow {place other : Place} {names : List String} (h : files.follow place names = .ok other) :
    files.approach? place names = some other := by
  induction names generalizing place with
  | nil => exact congrArg some (Except.ok.inj h)
  | cons name names ih =>
    have hdirectory := entry?_of_follow_cons h
    have hfile : files.isFile place = false := isFile_eq_false_iff.mpr (.inr hdirectory)
    rw [follow, hdirectory] at h
    rw [approach?, hfile]
    simp only [Bool.false_eq_true, ↓reduceIte] at h ⊢
    split_ifs at h ⊢ <;> exact ih h

/-- A path that leads to something leads to where it may lead. -/
theorem prospect?_of_find {path : Path} {place : Place} {entry : Entry} (h : files.find path = .ok (place, entry)) :
    files.prospect? path = some place := by
  obtain ⟨hcheck, hfollow, -⟩ := find_eq_ok_iff.mp h
  rw [prospect?, hcheck]
  exact approach?_of_follow hfollow

/-! ## Absence -/

/-- Nothing is at the place that a path leads to, or would lead to once each directory on its way is there. -/
def Absent (files : FileSystem) (path : Path) : Prop :=
  ∀ place, files.prospect? path = some place → files.entry? place = none

/-- Whatever there is stands in a directory. -/
def Rooted (files : FileSystem) : Prop :=
  ∀ place name, files.entry? (place ++ [name]) ≠ none → files.entry? place = some .directory

theorem Rooted.directory (h : files.Rooted) {place : Place} {rest : List String} (hrest : rest ≠ [])
    (hentry : files.entry? (place ++ rest) ≠ none) : files.entry? place = some .directory := by
  induction rest generalizing place with
  | nil => exact absurd rfl hrest
  | cons name rest ih =>
    rw [List.append_cons] at hentry
    refine h place name ?_
    by_cases hnil : rest = []
    · simpa [hnil] using hentry
    · simp [ih hnil hentry]

/-- Names that do not lead back lead to a place itself or below it. -/
theorem exists_append_of_approach? {place other : Place} {names : List String} (hback : ".." ∉ names)
    (h : files.approach? place names = some other) : ∃ rest, other = place ++ rest := by
  induction names generalizing place with
  | nil => exact ⟨[], by simpa using (Option.some.inj h).symm⟩
  | cons name names ih =>
    obtain ⟨hname, hnames⟩ := not_or.mp (mt List.mem_cons.mpr hback)
    rw [approach?] at h
    split_ifs at h
    · -- An empty name and a single dot stay at the place.
      exact ih hnames h
    · exact absurd ‹name = ".."› (Ne.symm hname)
    · obtain ⟨rest, rfl⟩ := ih hnames h
      exact ⟨name :: rest, by simp⟩

/-- Where something stands, the directories on the way to it are there. -/
theorem follow_of_approach? (hrooted : files.Rooted) {place other : Place} {names : List String} (hback : ".." ∉ names)
    (h : files.approach? place names = some other) (hentry : files.entry? other ≠ none) :
    files.follow place names = .ok other := by
  induction names generalizing place with
  | nil => exact congrArg Except.ok (Option.some.inj h)
  | cons name names ih =>
    have hnames : ".." ∉ names := fun hmem => hback (List.mem_cons_of_mem _ hmem)
    -- A way through a text leads nowhere.
    have hfile : files.isFile place = false := by
      cases hfile : files.isFile place with
      | false => rfl
      | true => simp [approach?, hfile] at h
    -- Something stands at or below the place, so a directory is there.
    have hdirectory : files.entry? place = some .directory := by
      obtain ⟨rest, rfl⟩ := exists_append_of_approach? hback h
      by_cases hrest : rest = []
      · rw [hrest, List.append_nil] at hentry
        exact (isFile_eq_false_iff.mp hfile).resolve_left hentry
      · exact hrooted.directory hrest hentry
    rw [approach?, hfile] at h
    rw [follow, hdirectory]
    simp only [Bool.false_eq_true, ↓reduceIte] at h ⊢
    split_ifs at h ⊢ <;> exact ih hnames h

/-- Where whatever there is stands in a directory, a path that does not lead back is absent as soon as it leads to nothing. -/
theorem absent_of_isPresent_eq_false (hrooted : files.Rooted) {path : Path} (hback : ".." ∉ path.names)
    (h : files.isPresent path = false) : files.Absent path := by
  intro place hprospect
  rw [prospect?] at hprospect
  split at hprospect
  case h_1 => contradiction
  case h_2 hcheck =>
    cases hentry : files.entry? place with
    | none => rfl
    | some entry =>
      -- Whatever stands there is also found by following the names, against the absence.
      have hfollow := follow_of_approach? hrooted hback hprospect (by simp [hentry])
      have hpresent := isPresent_iff.mpr ⟨_, find_eq_ok_iff.mpr ⟨hcheck, hfollow, hentry⟩⟩
      simp [h] at hpresent

/-! ## Changes -/

namespace Changes

variable {filled : List Place} {created : Path → Prop}

theorem isFile (h : Changes filled created files later) {place : Place} (hfile : later.isFile place = false) :
    files.isFile place = false := by
  rw [isFile_eq_false_iff] at hfile ⊢
  cases hentry : files.entry? place with
  | none => exact .inl rfl
  | some entry =>
    by_cases hdirectory : entry = .directory
    · exact .inr (congrArg some hdirectory)
    · obtain ⟨other, hother, hne⟩ := h.ne_directory hentry hdirectory
      simp [hother, hne] at hfile

/-- Where a path may lead after a change it might lead before. -/
theorem approach? (h : Changes filled created files later) {place other : Place} {names : List String}
    (happroach : later.approach? place names = some other) : files.approach? place names = some other := by
  induction names generalizing place with
  | nil => exact happroach
  | cons name names ih =>
    cases hfile : later.isFile place with
    | true => simp [FileSystem.approach?, hfile] at happroach
    | false =>
      simp only [FileSystem.approach?, hfile, h.isFile hfile, Bool.false_eq_true, ↓reduceIte] at happroach ⊢
      split_ifs at happroach ⊢ <;> exact ih happroach

theorem prospect? (h : Changes filled created files later) {path : Path} {place : Place}
    (hprospect : later.prospect? path = some place) : files.prospect? path = some place := by
  rw [FileSystem.prospect?] at hprospect ⊢
  split at hprospect
  case h_1 => contradiction
  case h_2 hcheck =>
    rw [h.origin] at hprospect
    exact h.approach? hprospect

end Changes

end FileSystem

end Highlighter
