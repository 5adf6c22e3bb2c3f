import Highlighter.CommandLine.Run

/-!
# The program

Runs a command line on the files of the machine. The page goes to the standard output, reports and failures go to the
standard error.
-/

namespace Highlighter

/-- The fault that the machine reports. -/
def faultOfError (error : IO.Error) : Fault :=
  let numbered (code : UInt32) : Fault :=
    (Fault.ofNumber? code.toNat).getD (.other (toString error))
  match error with
  | .noFileOrDirectory .. => .notFound
  | .alreadyExists _ code _ => numbered code
  | .inappropriateType _ code _ => numbered code
  | .invalidArgument _ code _ => numbered code
  | error => .other (toString error)

/-- The result of an action, or the fault that it meets. -/
def catchFault {α : Type} (action : IO α) : IO (Except Fault α) := do
  match ← action.toBaseIO with
  | .ok value => return .ok value
  | .error error => return .error (faultOfError error)

instance : MonadFiles IO where
  isPresent path := do
    match ← catchFault (IO.FS.Handle.mk path.text .read) with
    | .ok _ => return true
    | .error (.other _) => return true
    | .error _ => return false
  readText path := do
    match ← catchFault (IO.FS.readBinFile path.text) with
    | .error fault => return .error fault
    | .ok bytes =>
      match String.fromUTF8? bytes with
      | some text => return .ok text
      | none => return .error .notText
  createDirectories path :=
    if path.text = "" then return .ok () else catchFault (IO.FS.createDirAll path.text)
  writeText path text := catchFault (IO.FS.writeFile path.text text)

/-- The variables of the process. -/
def readEnvironment : IO Environment := do
  let listed ← catchFault (IO.FS.readBinFile "/proc/self/environ")
  let text := match listed with
    | .ok bytes => (String.fromUTF8? bytes).getD ""
    | .error _ => ""
  let bindings := (text.splitOn "\x00").filterMap fun entry =>
    match entry.splitOn "=" with
    | name :: value :: more => some (name, "=".intercalate (value :: more))
    | _ => none
  match ← IO.getEnv "HOME" with
  | some home => return ⟨("HOME", home) :: bindings, none⟩
  | none => return ⟨bindings, none⟩

/-- How the program is used. -/
def usage : String :=
  "\n".intercalate
    ["Usage: highlighter [OPTIONS] <INPUT>", "", "Options:",
      "  -o, --out-dir <DIR>   directory for the output, else that of the input",
      "  -c, --config <FILE>   file with the settings",
      "      --marker <CHAR>   character that is doubled around a span",
      "      --style <CSS>     style of the spans",
      "      --allow-html      pass raw HTML through",
      "      --no-html         write the tree only",
      "      --write-config    store the settings of this run",
      "  -h, --help            show this text",
      "  -V, --version         show the version", ""]

namespace Options.Refusal

/-- What is wrong with a command line. -/
def message : Refusal → String
  | unknownArgument => "unexpected argument"
  | missingArgument => "no input is given"
  | missingValue => "an argument has no value"
  | invalidValue => "the marker is not a single character"
  | unexpectedValue => "an argument takes no value"
  | repeated => "an argument is given twice"

end Options.Refusal

end Highlighter

open Highlighter in
/-- Runs the command line. -/
def main (arguments : List String) : IO UInt32 := do
  match Options.read arguments with
  | .error .help => IO.print usage; return 0
  | .error .version => IO.println "highlighter 0.1.0"; return 0
  | .error (.refused refusal) => IO.eprint ("error: " ++ refusal.message ++ "\n\n" ++ usage); return 2
  | .ok options =>
    let (result, records) ← run (← readEnvironment) options
    for record in records do
      if record.level = .info then IO.eprintln record.line
    match result with
    | .ok page => IO.print page; return 0
    | .error failure => IO.eprintln failure.message; return 1
