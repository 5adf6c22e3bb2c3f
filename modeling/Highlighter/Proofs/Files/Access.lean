import Highlighter.Files.Access
import Highlighter.Proofs.Files.FileSystem

/-!
# Steps on a file system

What the steps of a program do when the files around it are a state. Main statement: a document that was stored is found
where it was stored, and later changes elsewhere leave it and the way to it, so that it can be stored there again.

A step succeeds if its parts do, one after the other, and each part is a function of the file system.
-/

namespace Highlighter

namespace FileSystem

/-! ## Steps -/

/-- What a step gives on a file system, and the file system that it leaves. -/
def perform {ε α : Type} (step : ExceptT ε (StateM FileSystem) α) (files : FileSystem) : Except ε α × FileSystem :=
  Id.run (StateT.run (ExceptT.run step) files)

section

variable {ε α β : Type} {files : FileSystem}

@[simp] theorem perform_result (result : Except ε α) (files : FileSystem) :
    perform (ExceptT.mk (pure result) : ExceptT ε (StateM FileSystem) α) files = (result, files) := rfl

theorem perform_bind (step : ExceptT ε (StateM FileSystem) α) (next : α → ExceptT ε (StateM FileSystem) β)
    (files : FileSystem) :
    perform (step >>= next) files =
      match perform step files with
      | (.ok value, later) => perform (next value) later
      | (.error error, later) => (.error error, later) := by
  simp only [perform, bind, ExceptT.bind, ExceptT.run, ExceptT.mk, StateT.run, StateT.bind, Id.run]
  cases hstep : step files with
  | mk result later => cases result <;> rfl

theorem perform_bind_eq_ok_iff {step : ExceptT ε (StateM FileSystem) α}
    {next : α → ExceptT ε (StateM FileSystem) β} {value : β} {later : FileSystem} :
    perform (step >>= next) files = (.ok value, later) ↔ ∃ first between,
      perform step files = (.ok first, between) ∧ perform (next first) between = (.ok value, later) := by
  rw [perform_bind]
  cases hstep : perform step files with
  | mk result between =>
    cases result with
    -- The first part fails, so there is no value.
    | error error => simp
    | ok first =>
      -- The next step begins with the value and the files of the first part, and with no others.
      simp only [Prod.mk.injEq, Except.ok.injEq]
      constructor
      · exact fun hnext => ⟨first, between, ⟨rfl, rfl⟩, hnext⟩
      · rintro ⟨first, between, ⟨rfl, rfl⟩, hnext⟩
        exact hnext

/-- A step fails if its first part does, or if the next one fails on what the first one left. -/
theorem perform_bind_eq_error_iff {step : ExceptT ε (StateM FileSystem) α}
    {next : α → ExceptT ε (StateM FileSystem) β} {error : ε} {later : FileSystem} :
    perform (step >>= next) files = (.error error, later) ↔ perform step files = (.error error, later) ∨
      ∃ first between, perform step files = (.ok first, between) ∧
        perform (next first) between = (.error error, later) := by
  rw [perform_bind]
  cases hstep : perform step files with
  | mk result between =>
    cases result with
    -- The failure is that of the first part.
    | error failed => simp
    | ok first =>
      -- The first part does not fail, so the next one does.
      simp only [Prod.mk.injEq, Except.ok.injEq, reduceCtorEq, false_and, false_or]
      constructor
      · exact fun hnext => ⟨first, between, ⟨rfl, rfl⟩, hnext⟩
      · rintro ⟨first, between, ⟨rfl, rfl⟩, hnext⟩
        exact hnext

/-- A step with its errors in other words succeeds if the step does. -/
theorem perform_mapError_eq_ok_iff {ε' : Type} {step : StateM FileSystem (Except ε α)} {word : ε → ε'} {value : α}
    {later : FileSystem} :
    perform (ExceptT.mk (do return (← step).mapError word)) files = (.ok value, later) ↔
      perform (ExceptT.mk step) files = (.ok value, later) := by
  have heq : perform (ExceptT.mk (do return (← step).mapError word)) files =
      ((perform (ExceptT.mk step) files).1.mapError word, (perform (ExceptT.mk step) files).2) := rfl
  rw [heq]
  cases perform (ExceptT.mk step) files with
  | mk result between => cases result <;> simp [Except.mapError]

/-- A step with its errors in other words fails if the step does. -/
theorem perform_mapError_eq_error_iff {ε' : Type} {step : StateM FileSystem (Except ε α)} {word : ε → ε'} {error : ε'}
    {later : FileSystem} :
    perform (ExceptT.mk (do return (← step).mapError word)) files = (.error error, later) ↔
      ∃ cause, error = word cause ∧ perform (ExceptT.mk step) files = (.error cause, later) := by
  have heq : perform (ExceptT.mk (do return (← step).mapError word)) files =
      ((perform (ExceptT.mk step) files).1.mapError word, (perform (ExceptT.mk step) files).2) := rfl
  rw [heq]
  cases perform (ExceptT.mk step) files with
  | mk result between =>
    cases result with
    | ok value => simp [Except.mapError]
    | error cause =>
      -- The error is put into other words, and the files stay as the step left them.
      simp only [Except.mapError, Prod.mk.injEq, Except.error.injEq]
      constructor
      · rintro ⟨rfl, rfl⟩
        exact ⟨cause, rfl, rfl, rfl⟩
      · rintro ⟨_, rfl, rfl, rfl⟩
        exact ⟨rfl, rfl⟩

end

/-- Whether anything is at a path is looked up. -/
theorem perform_isPresent {ε : Type} (path : Path) (files : FileSystem) :
    perform (liftM (MonadFiles.isPresent path : StateM FileSystem Bool) : ExceptT ε (StateM FileSystem) Bool) files =
      (.ok (files.isPresent path), files) := rfl

theorem perform_createDirectories_eq_ok_iff {path : Path} {files later : FileSystem} {value : Unit} :
    perform (ExceptT.mk (MonadFiles.createDirectories path) : ExceptT Fault (StateM FileSystem) Unit) files =
      (.ok value, later) ↔ files.createDirectories path = (later, .ok ()) := by
  have heq : perform (ExceptT.mk (MonadFiles.createDirectories path) : ExceptT Fault (StateM FileSystem) Unit) files =
      ((files.createDirectories path).2, (files.createDirectories path).1) := rfl
  rw [heq, Prod.ext_iff, Prod.ext_iff, and_comm]

theorem perform_writeText_eq_ok_iff {path : Path} {text : String} {files later : FileSystem} {value : Unit} :
    perform (ExceptT.mk (MonadFiles.writeText path text) : ExceptT Fault (StateM FileSystem) Unit) files =
      (.ok value, later) ↔ files.write path (.text text) = .ok later := by
  simp only [perform, ExceptT.run, ExceptT.mk, StateT.run, Id.run, MonadFiles.writeText, modifyGet,
    MonadStateOf.modifyGet, StateT.modifyGet, pure]
  cases files.write path (.text text) <;> simp

theorem perform_createDirectories_eq_error_iff {path : Path} {files later : FileSystem} {fault : Fault} :
    perform (ExceptT.mk (MonadFiles.createDirectories path) : ExceptT Fault (StateM FileSystem) Unit) files =
      (.error fault, later) ↔ files.createDirectories path = (later, .error fault) := by
  have heq : perform (ExceptT.mk (MonadFiles.createDirectories path) : ExceptT Fault (StateM FileSystem) Unit) files =
      ((files.createDirectories path).2, (files.createDirectories path).1) := rfl
  rw [heq, Prod.ext_iff, Prod.ext_iff, and_comm]

/-- Writing that fails changes nothing. -/
theorem perform_writeText_eq_error_iff {path : Path} {text : String} {files later : FileSystem} {fault : Fault} :
    perform (ExceptT.mk (MonadFiles.writeText path text) : ExceptT Fault (StateM FileSystem) Unit) files =
      (.error fault, later) ↔ files.write path (.text text) = .error fault ∧ later = files := by
  simp only [perform, ExceptT.run, ExceptT.mk, StateT.run, Id.run, MonadFiles.writeText, modifyGet,
    MonadStateOf.modifyGet, StateT.modifyGet, pure]
  cases files.write path (.text text) <;> simp [eq_comm]

/-- The directory that a path stands in has been created. -/
def ParentCreated (path : Path) (files later : FileSystem) : Prop :=
  match path.parent? with
  | none => later = files
  | some parent => files.createDirectories parent = (later, .ok ())

/-- A text has been stored at a path: the directory was created that the path stands in, and the text was written. -/
def Stored (path : Path) (text : String) (files later : FileSystem) : Prop :=
  ∃ between, ParentCreated path files between ∧ between.write path (.text text) = .ok later

/-- A text is stored where there is the directory around it. -/
theorem stored_of_isDirectory (parent : Path) {path : Path} {text : String} {files : FileSystem} {place : Place}
    (hparent : path.parent? = some parent) (hdirectory : parent.text ≠ "" → files.isDirectory parent = true)
    (htarget : files.target path = .ok (.place place)) (hlong : isTooLong place = false)
    (hentry : files.entry? place ≠ some .directory) : Stored path text files (files.put place (.text text)) := by
  refine ⟨files, ?_, write_eq_ok_iff.mpr ⟨place, htarget, hlong, hentry, rfl⟩⟩
  rw [ParentCreated, hparent]
  exact createDirectories_of_isDirectory hdirectory

/-- The directory that a path stands in is created once: later it is there. -/
theorem ParentCreated.spec {path : Path} {files later : FileSystem} (h : ParentCreated path files later) :
    Keeps [] files later ∧ ∀ places last, Keeps places later last → ParentCreated path last last := by
  unfold ParentCreated at h ⊢
  cases hparent : path.parent? with
  | none =>
    -- A path without a parent needs no directory.
    rw [hparent] at h
    subst h
    exact ⟨Keeps.refl [] later, fun _ _ _ => rfl⟩
  | some parent =>
    rw [hparent] at h
    -- A directory that is there once is there as long as files are kept, and creating it again does nothing.
    obtain ⟨hkeeps, hdirectory⟩ := files.createDirectories_spec parent
    rw [h] at hkeeps hdirectory
    refine ⟨hkeeps, fun places last hlast => ?_⟩
    exact createDirectories_of_isDirectory fun hne => hlast.isDirectory (hdirectory rfl hne)

/-- A text that was stored is found, and only what stood at its place is gone. Whatever changes later, other texts can be
stored there as long as no directory takes the place. -/
theorem Stored.spec {path : Path} {text : String} {files later : FileSystem} (h : Stored path text files later) :
    ∃ place, later.find path = .ok (place, .text text) ∧ Keeps [place] files later ∧
      ∀ places last, Keeps places later last → last.entry? place ≠ some .directory →
        ∀ other, Stored path other last (last.put place (.text other)) := by
  obtain ⟨between, hparent, hwrite⟩ := h
  obtain ⟨hkeeps, hagain⟩ := hparent.spec
  obtain ⟨place, htarget, hlong, hfind, hput⟩ := find_write hwrite
  refine ⟨place, hfind, hkeeps.trans hput, fun places last hlast hentry other => ?_⟩
  have hboth := hput.trans hlast
  exact ⟨last, hagain _ last hboth, write_eq_ok_iff.mpr ⟨place, hboth.target htarget, hlong, hentry, rfl⟩⟩

end FileSystem

open FileSystem

theorem perform_readDocument (path : Path) (files : FileSystem) :
    perform (readDocument path) files =
      (if files.isPresent path then (files.readText path).mapError .fault else .error (.notFound path), files) := by
  rw [readDocument, perform_bind, perform_isPresent]
  cases files.isPresent path <;> rfl

/-- A document is read if its path leads to a text. -/
theorem perform_readDocument_eq_ok_iff {path : Path} {source : String} {files later : FileSystem} :
    perform (readDocument path) files = (.ok source, later) ↔
      later = files ∧ ∃ place, files.find path = .ok (place, .text source) := by
  rw [perform_readDocument]
  unfold isPresent readText
  cases hfind : files.find path with
  | error fault => simp
  | ok found =>
    obtain ⟨place, entry⟩ := found
    cases entry <;> simp [bind, Except.bind, Except.mapError, eq_comm, and_comm]

/-- A document is stored: there is no directory to create where the path names none. -/
theorem perform_writeDocument_eq_ok_iff {path : Path} {text : String} {files later : FileSystem} {value : Unit} :
    perform (writeDocument path text) files = (.ok value, later) ↔ Stored path text files later := by
  unfold writeDocument Stored ParentCreated
  cases path.parent? with
  | none => simp only [perform_mapError_eq_ok_iff, perform_writeText_eq_ok_iff, exists_eq_left]
  | some parent =>
    by_cases hempty : parent.text = ""
    · -- The parent is the current directory, which is there.
      have hnothing : ∀ later, files.createDirectories parent = (later, .ok ()) ↔ later = files := by
        intro later
        rw [createDirectories, if_pos hempty]
        simp [eq_comm]
      simp only [ne_eq, hempty, not_true_eq_false, ↓reduceIte, hnothing, exists_eq_left, perform_mapError_eq_ok_iff,
        perform_writeText_eq_ok_iff]
    · simp only [ne_eq, hempty, not_false_eq_true, ↓reduceIte, perform_bind_eq_ok_iff, perform_mapError_eq_ok_iff,
        perform_createDirectories_eq_ok_iff, perform_writeText_eq_ok_iff, exists_const]

end Highlighter
