import Highlighter.Files.FileSystem

/-!
# Access to files

What a program asks of the files around it, apart from how it is done, and the reading and writing of documents in
these terms. A file system held as a state gives such access.
-/

namespace Highlighter

/-- A monad in which files can be read and written. -/
class MonadFiles (m : Type → Type) where
  /-- Whether a path leads to anything. -/
  isPresent : Path → m Bool
  /-- The text of a file. -/
  readText : Path → m (Except Fault String)
  /-- Creates a directory with those it stands in. -/
  createDirectories : Path → m (Except Fault Unit)
  /-- Puts a text into a file, instead of what it held. -/
  writeText : Path → String → m (Except Fault Unit)

instance : MonadFiles (StateM FileSystem) where
  isPresent path := return (← get).isPresent path
  readText path := return (← get).readText path
  createDirectories path := modifyGet fun files =>
    let (files, result) := files.createDirectories path
    (result, files)
  writeText path text := modifyGet fun files =>
    match files.write path (.text text) with
    | .ok files => (.ok (), files)
    | .error fault => (.error fault, files)

/-! ## Documents -/

/-- Why a document could not be read or written. -/
inductive DocumentError where
  | notFound (path : Path)
  | fault (cause : Fault)
deriving DecidableEq, Repr

namespace DocumentError

/-- The wording of the error. -/
def message : DocumentError → String
  | .notFound path => "File not found: " ++ path.text
  | .fault cause => "IO error: " ++ cause.message

/-- The fault behind the error. -/
def cause? : DocumentError → Option Fault
  | .notFound _ => none
  | .fault cause => some cause

end DocumentError

variable {m : Type → Type} [Monad m] [MonadFiles m]

/-- Reads a document. -/
def readDocument (path : Path) : ExceptT DocumentError m String := do
  if ← (MonadFiles.isPresent path : m Bool) then
    ExceptT.mk (return (← MonadFiles.readText path).mapError .fault)
  else throw (.notFound path)

/-- Writes a document, and creates the directory it stands in. -/
def writeDocument (path : Path) (text : String) : ExceptT DocumentError m Unit := do
  match path.parent? with
  | none => pure ()
  | some parent =>
    if parent.text ≠ "" then
      ExceptT.mk (return (← MonadFiles.createDirectories parent).mapError .fault)
  ExceptT.mk (return (← MonadFiles.writeText path text).mapError .fault)

end Highlighter
