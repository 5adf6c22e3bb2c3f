import Highlighter.CommandLine.Options
import Highlighter.Document.Dump
import Highlighter.Pipeline
import Highlighter.Settings.Storage

/-!
# Runs

A run loads the settings, lets the options override them, reads the document, and writes its tree and its page. The
marker is checked before any file is written. What happens is reported on the way. What reads the document is a
parameter; the last definition is the run that reads Markdown.
-/

namespace Highlighter

/-- Why a run fails. -/
inductive Failure where
  | settings (error : SettingsError)
  | settingsMissing (path : Path)
  | marker (error : DelimiterError)
  | settingsNotStored (path : Path) (cause : Fault)
  | notRead (path : Path) (error : DocumentError)
  | notWritten (path : Path) (error : DocumentError)
deriving DecidableEq

namespace Failure

/-- What failed, and what that was caused by. -/
def chain : Failure → List String
  | settings error => error.message :: error.cause?.toList
  | settingsMissing path => ["Config file not found: " ++ path.text]
  | marker error => [error.message]
  | settingsNotStored path cause => ["Failed to write config " ++ path.text, cause.message]
  | notRead path error => ("Failed to read " ++ path.text) :: ofDocument error
  | notWritten path error => ("Failed to write " ++ path.text) :: ofDocument error
where
  /-- An error at a document, and its cause. -/
  ofDocument (error : DocumentError) : List String :=
    error.message :: (error.cause?.map Fault.message).toList

/-- The wording of a failure. -/
def message (failure : Failure) : String := "Error: " ++ String.intercalate ": " failure.chain

end Failure

/-! ## Settings of a run -/

namespace Options

/-- The settings of a run: an option counts more than the stored setting. -/
def override (options : Options) (settings : Settings) : Settings :=
  ⟨options.marker.getD settings.marker, options.style.getD settings.style,
    options.outputDirectory.or settings.outputDirectory⟩

/-- The directory of the document. -/
def inputDirectory (options : Options) : Path :=
  match options.input.parent? with
  | none => ⟨"."⟩
  | some parent => if parent.text = "" then ⟨"."⟩ else parent

/-- The directory for the output. -/
def directory (options : Options) (settings : Settings) : Path :=
  settings.outputDirectory.getD options.inputDirectory

/-- How the page is rendered. -/
def renderer (options : Options) (settings : Settings) : Renderer :=
  { Renderer.plain.register "highlight" (.styled settings.style) with
    allowHtml := options.allowHtml }

end Options

/-- The name of the file for the tree. -/
def treeFile : String := "mdast-output.json"

/-- The name of the file for the page. -/
def pageFile : String := "html-output.html"

/-! ## Steps -/

/-- A step of a run: it reports on the way, and may fail. -/
abbrev RunT (m : Type → Type) := ExceptT Failure (StateT (List Log.Record) m)

namespace RunT

variable {m : Type → Type} [Monad m]

/-- Reports records. -/
def report (records : List Log.Record) : RunT m Unit := modify (· ++ records)

/-- The result of a step that may fail with an error of its own. -/
def attempt {ε α : Type} (failure : ε → Failure) (step : ExceptT ε m α) : RunT m α := do
  match ← (StateT.lift step.run : StateT (List Log.Record) m (Except ε α)) with
  | .ok value => return value
  | .error error => throw (failure error)

end RunT

variable {m : Type → Type} [Monad m] [MonadFiles m]

/-- Loads the settings that the options name, or those in the usual place. A file that the options name may be missing only
if it is to be written. -/
def loadSettings (environment : Environment) (options : Options) : RunT m Settings := do
  let load (path : Path) : RunT m (Option Settings) :=
    RunT.attempt .settings (Settings.load environment path)
  match options.settingsFile with
  | none => return (← load (Settings.standardPath environment)).getD .standard
  | some path =>
    match ← load path with
    | some settings => return settings
    | none =>
      -- A run that stores its settings creates the file.
      if options.storeSettings then return .standard else throw (.settingsMissing path)

/-- Stores the settings of a run, if the options ask for it. -/
def storeSettings (environment : Environment) (options : Options) (settings : Settings) :
    RunT m Unit := do
  if options.storeSettings then
    let path := options.settingsFile.getD (Settings.standardPath environment)
    RunT.attempt (.settingsNotStored path) (settings.save path)
    RunT.report [.settingsWritten path.text]

/-- Highlights a document with the given settings, writes the tree and the page, and gives the page. -/
def highlight (parser : Parser) (environment : Environment) (options : Options)
    (settings : Settings) : RunT m String := do
  let delimiter ← match Delimiter.ofMarker settings.marker with
    | .ok delimiter => pure delimiter
    | .error error => throw (.marker error)
  storeSettings environment options settings
  RunT.report [.highlighting delimiter.fence options.input.text]
  let source ← RunT.attempt (.notRead options.input) (readDocument options.input)
  let tree := Pipeline.runParsed ⟨[delimiter.stage]⟩ parser source
  RunT.report tree.records
  let directory := options.directory settings
  let treePath := directory.join treeFile
  RunT.attempt (.notWritten treePath) (writeDocument treePath tree.value.dumpIndented)
  RunT.report [.treeWritten treePath.text]
  let page := (options.renderer settings).render tree.value
  if !options.noPage then
    let pagePath := directory.join pageFile
    RunT.attempt (.notWritten pagePath) (writeDocument pagePath page)
    RunT.report [.pageWritten pagePath.text]
  return page

/-- A whole run: the page that it prints, or why it fails, and what it reports. -/
def runWith (parser : Parser) (environment : Environment) (options : Options) :
    m (Except Failure String × List Log.Record) :=
  StateT.run (ExceptT.run do
    let settings ← loadSettings environment options
    highlight parser environment options (options.override settings)) []

/-- A run on Markdown documents. -/
def run (environment : Environment) (options : Options) :
    m (Except Failure String × List Log.Record) :=
  runWith Markdown.events environment options

end Highlighter
