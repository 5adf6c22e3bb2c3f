import Highlighter.Files.Path

/-!
# Command lines

The arguments of a run name the document and say how it is highlighted. An argument takes its effect when the next one
begins, so of two faults in a command line the one that is met first by this rule counts.
-/

namespace Highlighter

/-- What a command line asks for. -/
structure Options where
  input : Path
  outputDirectory : Option Path
  /-- The file with the settings. -/
  settingsFile : Option Path
  marker : Option Char
  style : Option String
  allowHtml : Bool
  /-- Whether only the tree is written. -/
  noPage : Bool
  /-- Whether the settings of the run are stored. -/
  storeSettings : Bool
deriving DecidableEq, Repr

namespace Options

/-! ## Arguments -/

/-- Why a command line is refused. -/
inductive Refusal where
  | unknownArgument
  | missingArgument
  /-- An argument has no value, or an empty one where a path is needed. -/
  | missingValue
  | invalidValue
  /-- A value is given to an argument that takes none. -/
  | unexpectedValue
  | repeated
deriving DecidableEq, Repr

/-- Why a command line leads to no run. -/
inductive Stop where
  | help
  | version
  | refused (refusal : Refusal)
deriving DecidableEq, Repr

/-- An argument with a value. -/
inductive Valued where
  | input
  | outputDirectory
  | settingsFile
  | marker
  | style
deriving DecidableEq, Repr

/-- An argument without a value. -/
inductive Switch where
  | allowHtml
  | noPage
  | storeSettings
  | help
  | version
deriving DecidableEq, Repr

/-- An argument that is given by a name. -/
inductive Named where
  | valued (argument : Valued)
  | switch (argument : Switch)
deriving DecidableEq, Repr

/-- The argument of a long name. -/
def ofLongName? (name : String) : Option Named :=
  [("out-dir", .valued .outputDirectory), ("config", .valued .settingsFile),
    ("marker", .valued .marker), ("style", .valued .style), ("allow-html", .switch .allowHtml),
    ("no-html", .switch .noPage), ("write-config", .switch .storeSettings),
    ("help", .switch .help), ("version", .switch .version)].lookup name

/-- The argument of a letter. -/
def ofLetter? (letter : Char) : Option Named :=
  [('o', .valued .outputDirectory), ('c', .valued .settingsFile), ('h', .switch .help),
    ('V', .switch .version)].lookup letter

/-! ## Reading -/

/-- A command line as far as it has been read. -/
structure Scan where
  input : Option Path
  outputDirectory : Option Path
  settingsFile : Option Path
  marker : Option Char
  style : Option String
  switches : List Switch
  /-- The argument that has not taken effect, with its value if that has been read. -/
  pending : Option (Valued × Option String)
  /-- Whether the document has been named. -/
  named : Bool
  /-- Whether names of arguments are over. -/
  plain : Bool

namespace Scan

/-- Nothing has been read. -/
def start : Scan := ⟨none, none, none, none, none, [], none, false, false⟩

/-- The path that a value names. -/
def pathOf (value : String) : Except Stop Path :=
  if value = "" then .error (.refused .missingValue) else .ok ⟨value⟩

/-- The character that a value is. -/
def characterOf (value : String) : Except Stop Char :=
  match value.toList with
  | [c] => .ok c
  | _ => .error (.refused .invalidValue)

/-- The new value of an argument that must not have one yet. -/
def once {α : Type} (old : Option α) (new : Except Stop α) : Except Stop (Option α) :=
  match old with
  | some _ => .error (.refused .repeated)
  | none => new.map some

/-- Gives a value to an argument. -/
def set (scan : Scan) (argument : Valued) (value : String) : Except Stop Scan := do
  match argument with
  | .input => return { scan with input := ← once scan.input (pathOf value) }
  | .outputDirectory =>
    return { scan with outputDirectory := ← once scan.outputDirectory (pathOf value) }
  | .settingsFile => return { scan with settingsFile := ← once scan.settingsFile (pathOf value) }
  | .marker => return { scan with marker := ← once scan.marker (characterOf value) }
  | .style => return { scan with style := ← once scan.style (.ok value) }

/-- Lets the last argument take its effect. -/
def settle (scan : Scan) : Except Stop Scan :=
  match scan.pending with
  | none => .ok scan
  | some (_, none) => .error (.refused .missingValue)
  | some (argument, some value) => { scan with pending := none }.set argument value

/-- Turns a switch on. -/
def turnOn (scan : Scan) (switch : Switch) : Except Stop Scan := do
  let scan ← scan.settle
  match switch with
  | .help => .error .help
  | .version => .error .version
  | switch =>
    if scan.switches.contains switch then .error (.refused .repeated)
    else return { scan with switches := switch :: scan.switches }

/-- Takes a named argument with the value that is attached to it, or else waits for its value. -/
def takeValued (scan : Scan) (argument : Valued) (attached : Option String) : Except Stop Scan := do
  let scan ← scan.settle
  match attached with
  | some value => scan.set argument value
  | none => return { scan with pending := some (argument, none) }

/-- Takes an argument with a long name, and perhaps a value behind an equals sign. -/
def takeLong (scan : Scan) (text : List Char) : Except Stop Scan :=
  let name := String.ofList (text.takeWhile (· ≠ '='))
  let attached := match text.dropWhile (· ≠ '=') with
    | [] => none
    | _ :: value => some (String.ofList value)
  match ofLongName? name, attached with
  | none, _ => .error (.refused .unknownArgument)
  | some (.valued argument), attached => scan.takeValued argument attached
  | some (.switch _), some _ => .error (.refused .unexpectedValue)
  | some (.switch switch), none => scan.turnOn switch

/-- Takes letters, each of which names an argument. What follows the letter of an argument with a value is that
value, perhaps behind an equals sign. -/
def takeLetters (scan : Scan) : List Char → Except Stop Scan
  | [] => .ok scan
  | letter :: text =>
    match ofLetter? letter with
    | none => .error (.refused .unknownArgument)
    | some (.switch switch) => do (← scan.turnOn switch).takeLetters text
    | some (.valued argument) =>
      let attached := match text with
        | [] => none
        | '=' :: value => some (String.ofList value)
        | value => some (String.ofList value)
      scan.takeValued argument attached

/-- Takes a text that names no argument: the value of the last one, if it has none, or else the document. -/
def takeText (scan : Scan) (text : String) : Except Stop Scan :=
  match scan.pending, scan.plain with
  | some (argument, none), false => .ok { scan with pending := some (argument, some text) }
  | _, _ =>
    if scan.named then .error (.refused .unknownArgument)
    else do return { ← scan.settle with pending := some (.input, some text), named := true }

/-- Takes the next text of a command line. -/
def take (scan : Scan) (text : String) : Except Stop Scan :=
  if scan.plain then scan.takeText text
  else
    match text.toList with
    -- Behind two hyphens every text names the document.
    | ['-', '-'] => .ok { scan with plain := true }
    | '-' :: '-' :: name => scan.takeLong name
    | '-' :: c :: letters => scan.takeLetters (c :: letters)
    | _ => scan.takeText text

/-- The options that have been read. The document has to be named. -/
def finish (scan : Scan) : Except Stop Options := do
  let scan ← scan.settle
  match scan.input with
  | none => .error (.refused .missingArgument)
  | some input =>
    let has (switch : Switch) : Bool := scan.switches.contains switch
    return ⟨input, scan.outputDirectory, scan.settingsFile, scan.marker, scan.style,
      has .allowHtml, has .noPage, has .storeSettings⟩

end Scan

/-- Reads a command line. -/
def read (arguments : List String) : Except Stop Options := do
  (← arguments.foldlM Scan.take .start).finish

end Options

end Highlighter
