import Highlighter.Files.Access
import Highlighter.Settings.Expansion
import Highlighter.Settings.Form

/-!
# Stored settings

Settings are stored in a file, by default in one below the home directory. When they are loaded, the marker is checked
and the directory for the output is expanded.
-/

namespace Highlighter

/-- Why stored settings cannot be loaded. -/
inductive SettingsError where
  | unreadable (path : Path) (cause : Fault)
  | malformed (path : Path) (cause : Settings.FormError)
  | blankMarker (path : Path) (marker : Char)
deriving DecidableEq, Repr

namespace SettingsError

/-- The wording of the error without its cause. -/
def summary : SettingsError → String
  | unreadable path _ => "Failed to read config file at " ++ path.text
  | malformed path _ => "Failed to parse config file at " ++ path.text
  | blankMarker path marker =>
    "Invalid marker " ++ quoteBlank marker ++ " in " ++ path.text
      ++ ": markers must not be whitespace"

/-- The wording of the cause. -/
def cause? : SettingsError → Option String
  | unreadable _ cause => some cause.message
  | malformed _ cause => some cause.message
  | blankMarker .. => none

/-- The wording of the error. -/
def message (error : SettingsError) : String :=
  match error.cause? with
  | none => error.summary
  | some cause => error.summary ++ ": " ++ cause

end SettingsError

namespace Settings

/-- Where settings are stored unless a path is given. -/
def standardPath (environment : Environment) : Path :=
  let directory := Expansion.expandTilde environment "~/.config/markdown-highlight".toList
  Path.join ⟨String.ofList directory⟩ "config.toml"

/-- Settings as they are used: with the directory for the output expanded, as far as that can be done. -/
def expand (environment : Environment) (settings : Settings) : Settings :=
  { settings with
    outputDirectory := settings.outputDirectory.map fun directory =>
      ((Expansion.expand? environment directory.text).map Path.mk).getD directory }

/-- The settings that the text of a file says. -/
def ofFile (environment : Environment) (path : Path) (text : String) :
    Except SettingsError Settings := do
  let settings ← (read text).mapError (.malformed path)
  if Unicode.isWhiteSpace settings.marker then .error (.blankMarker path settings.marker)
  else .ok (settings.expand environment)

variable {m : Type → Type} [Monad m] [MonadFiles m]

/-- Loads settings from a path, if there is anything. -/
def load (environment : Environment) (path : Path) : ExceptT SettingsError m (Option Settings) := do
  if ← (MonadFiles.isPresent path : m Bool) then
    let text ← ExceptT.mk (return (← MonadFiles.readText path).mapError (.unreadable path))
    return some (← ExceptT.mk (pure (ofFile environment path text)))
  else return none

/-- Stores settings at a path, and creates the directory of the file. -/
def save (settings : Settings) (path : Path) : ExceptT Fault m Unit := do
  match path.parent? with
  | none => pure ()
  | some parent => ExceptT.mk (MonadFiles.createDirectories parent)
  ExceptT.mk (MonadFiles.writeText path settings.write)

end Settings

end Highlighter
