import Highlighter.Delimiter
import Highlighter.Files.Path
import Highlighter.Html.Renderer
import Highlighter.Toml.Document

/-!
# Settings

What a user may set: the marker, the style of highlights, and the directory for the output. Settings are kept as
a TOML document. A key that is missing there has its usual value, and a key of another name says nothing.
-/

namespace Highlighter

/-- The settings of a run. -/
structure Settings where
  marker : Char
  style : String
  /-- The directory for the output, unless it goes beside the input. -/
  outputDirectory : Option Path
deriving DecidableEq, Repr

namespace Settings

/-- The settings unless others are given. -/
def standard : Settings := ⟨Delimiter.standard.marker, defaultStyle, none⟩

/-! ## Writing -/

/-- A line that gives a text to a key. -/
def line (key text : String) : String := key ++ " = " ++ Toml.quote text ++ "\n"

/-- Settings as a document. -/
def write (settings : Settings) : String :=
  line "marker" (String.singleton settings.marker) ++ line "style" settings.style ++
    match settings.outputDirectory with
    | none => ""
    | some directory => line "output_dir" directory.text

/-! ## Reading -/

/-- Why a text says no settings. -/
inductive FormError where
  | noDocument
  /-- The value of a key is no text. -/
  | noText (key : String)
  | noCharacter
deriving DecidableEq, Repr

namespace FormError

/-- The wording of the error. -/
def message : FormError → String
  | noDocument => "the text is no TOML document"
  | noText key => "the value of '" ++ key ++ "' is no string"
  | noCharacter => "the marker is not a single character"

end FormError

/-- The text of a key in a table, if it is there. -/
def text? (table : Toml.Table) (key : String) : Except FormError (Option String) :=
  match table.lookup key with
  | none => .ok none
  | some (.string text) => .ok (some text)
  | some _ => .error (.noText key)

/-- The marker that a text says. -/
def markerOf (text : String) : Except FormError Char :=
  match text.toList with
  | [marker] => .ok marker
  | _ => .error .noCharacter

/-- Reads settings from a document. -/
def read (text : String) : Except FormError Settings := do
  match Toml.document? text with
  | none => .error .noDocument
  | some table =>
    let marker ← (← text? table "marker").mapM markerOf
    let style ← text? table "style"
    let directory ← text? table "output_dir"
    .ok ⟨marker.getD standard.marker, style.getD standard.style, directory.map Path.mk⟩

end Settings

end Highlighter
