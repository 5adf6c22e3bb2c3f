/-!
# Faults of files

Why something could not be done with a file: the causes that the system numbers, and texts that cannot be read
or named.
-/

namespace Highlighter

/-- Why a file could not be read or written. -/
inductive Fault where
  | notFound
  | alreadyExists
  | notDirectory
  | isDirectory
  | nameTooLong
  /-- A path holds the character that ends names. -/
  | nulInName
  /-- The bytes of a file are no text. -/
  | notText
  /-- Any other cause, in the words of the system. -/
  | other (message : String)
deriving DecidableEq, Repr

namespace Fault

/-- The number of a cause with the system's words for it. -/
def numbered (words : String) (number : Nat) : String :=
  words ++ " (os error " ++ toString number ++ ")"

/-- The wording of a fault. -/
def message : Fault → String
  | notFound => numbered "No such file or directory" 2
  | alreadyExists => numbered "File exists" 17
  | notDirectory => numbered "Not a directory" 20
  | isDirectory => numbered "Is a directory" 21
  | nameTooLong => numbered "File name too long" 36
  | nulInName => "file name contained an unexpected NUL byte"
  | notText => "stream did not contain valid UTF-8"
  | other message => message

/-- The fault that has a number. -/
def ofNumber? (number : Nat) : Option Fault :=
  match number with
  | 2 => some .notFound
  | 17 => some .alreadyExists
  | 20 => some .notDirectory
  | 21 => some .isDirectory
  | 36 => some .nameTooLong
  | _ => none

end Fault

end Highlighter
