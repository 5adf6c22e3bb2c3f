import Highlighter.Files.Fault
import Highlighter.Files.Path

/-!
# File systems

A file system holds texts, other bytes and directories at places. A place is the list of names that lead to it from
the root. A path is followed name by name, and each name but the last has to lead to a directory.
-/

namespace Highlighter

/-- What a place holds. -/
inductive Entry where
  | text (value : String)
  /-- Bytes that are no text. -/
  | binary (bytes : List UInt8)
  | directory
deriving DecidableEq, Repr

/-- The names that lead to a place from the root. -/
abbrev Place := List String

/-- What stands at which place, and the place that relative paths begin at. The root is a directory. -/
structure FileSystem where
  entries : List (Place × Entry)
  current : Place

namespace FileSystem

/-! ## Places -/

/-- What a place holds. -/
def entry? (files : FileSystem) : Place → Option Entry
  | [] => some .directory
  | place => files.entries.lookup place

/-- Puts an entry at a place, instead of what it held. -/
def put (files : FileSystem) (place : Place) (entry : Entry) : FileSystem :=
  { files with entries := (place, entry) :: files.entries.filter (·.1 ≠ place) }

/-- The length in bytes that no name exceeds. -/
def maxName : Nat := 255

/-- The length in bytes that every path falls short of. -/
def maxPath : Nat := 4096

/-- Follows names from a place on. -/
def follow (files : FileSystem) (place : Place) : List String → Except Fault Place
  | [] => .ok place
  | name :: names =>
    match files.entry? place with
    | none => .error .notFound
    | some .directory =>
      if name = "" ∨ name = "." then files.follow place names
      else if name = ".." then files.follow place.dropLast names
      else if name.utf8ByteSize > maxName then .error .nameTooLong
      else files.follow (place ++ [name]) names
    | some _ => .error .notDirectory

/-- The place at which a path begins. -/
def origin (files : FileSystem) (path : Path) : Place :=
  if path.isAbsolute then [] else files.current

/-- Refuses a path that is empty, too long, or holds the character that ends names. -/
def checkPath (path : Path) : Except Fault Unit :=
  if path.text.toList.contains '\x00' then .error .nulInName
  else if path.text = "" then .error .notFound
  else if path.text.utf8ByteSize ≥ maxPath then .error .nameTooLong
  else .ok ()

/-- What a path leads to, with its place. -/
def find (files : FileSystem) (path : Path) : Except Fault (Place × Entry) := do
  checkPath path
  let place ← files.follow (files.origin path) path.names
  match files.entry? place with
  | some entry => .ok (place, entry)
  | none => .error .notFound

/-- A place that may be filled: the directory and the last name of a path. -/
inductive Target where
  | place (place : Place)
  /-- The path ends with a slash behind the name. -/
  | slashed (place : Place)
  /-- The path ends with no name, but at a directory. -/
  | here
deriving DecidableEq

/-- The place that a path names, in a directory that has to exist. -/
def target (files : FileSystem) (path : Path) : Except Fault Target := do
  checkPath path
  let names := path.names.reverse
  match names.dropWhile (· = "") with
  | [] => .ok .here
  | last :: before =>
    -- The dot makes sure that the names before the last one lead to a directory.
    let directory ← files.follow (files.origin path) (before.reverse ++ ["."])
    if last = "." ∨ last = ".." then .ok .here
    else if names.head? = some "" then .ok (.slashed (directory ++ [last]))
    else .ok (.place (directory ++ [last]))

/-- Whether the last name of a place is too long. -/
def isTooLong (place : Place) : Bool :=
  (place.getLast?.map (·.utf8ByteSize)).any (· > maxName)

/-! ## Reading -/

/-- Whether a path leads to anything. -/
def isPresent (files : FileSystem) (path : Path) : Bool :=
  match files.find path with
  | .ok _ => true
  | .error _ => false

/-- Whether a path leads to a directory. -/
def isDirectory (files : FileSystem) (path : Path) : Bool :=
  match files.find path with
  | .ok (_, .directory) => true
  | _ => false

/-- The text of the file that a path leads to. -/
def readText (files : FileSystem) (path : Path) : Except Fault String := do
  match ← files.find path with
  | (_, .text value) => .ok value
  | (_, .binary _) => .error .notText
  | (_, .directory) => .error .isDirectory

/-! ## Writing -/

/-- Puts a file at a path. -/
def write (files : FileSystem) (path : Path) (content : Entry) : Except Fault FileSystem := do
  match ← files.target path with
  | .here | .slashed _ => .error .isDirectory
  | .place place =>
    if isTooLong place then .error .nameTooLong
    else if files.entry? place = some .directory then .error .isDirectory
    else .ok (files.put place content)

/-- Creates one directory. -/
def createDirectory (files : FileSystem) (path : Path) : Except Fault FileSystem := do
  match ← files.target path with
  | .here => .error .alreadyExists
  | .slashed place | .place place =>
    if isTooLong place then .error .nameTooLong
    else if (files.entry? place).isSome then .error .alreadyExists
    else .ok (files.put place .directory)

/-- Creates a directory unless it is there already. -/
def ensureDirectory (files : FileSystem) (path : Path) : Except Fault FileSystem :=
  match files.createDirectory path with
  | .ok files => .ok files
  | .error fault => if files.isDirectory path then .ok files else .error fault

/-- Creates a directory with those it stands in, and tells whether that failed. Directories that were created before
a failure stay. -/
def createDirectories (files : FileSystem) (path : Path) : FileSystem × Except Fault Unit :=
  if path.text = "" then (files, .ok ())
  else
    match files.ensureDirectory path with
    | .ok files => (files, .ok ())
    | .error .notFound =>
      -- The directory around it is missing, and is created first.
      match path.parent? with
      | none => (files, .error (.other "failed to create whole tree"))
      | some parent =>
        if _h : parent.text.length < path.text.length then
          match createDirectories files parent with
          | (files, .error fault) => (files, .error fault)
          | (files, .ok ()) =>
            match files.ensureDirectory path with
            | .ok files => (files, .ok ())
            | .error fault => (files, .error fault)
        else (files, .error .notFound)
    | .error fault => (files, .error fault)
termination_by path.text.length

/-! ## Listing -/

/-- Everything below a place, with the names that lead there from it. -/
def below (files : FileSystem) (place : Place) : List (Place × Entry) :=
  files.entries.filterMap fun (other, entry) =>
    if place.isPrefixOf other ∧ place.length < other.length then
      some (other.drop place.length, entry)
    else none

end FileSystem

end Highlighter
