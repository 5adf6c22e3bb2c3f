import Highlighter.Html.Renderer
import Highlighter.Markdown.Reading
import Highlighter.Pass

/-!
# Pipelines

A pipeline reads a source with a parser, runs its stages over the tree, each on what the one before it made, and
renders the result. Nothing here depends on the parser; the last two definitions are for Markdown.
-/

namespace Highlighter

/-- A named change of a tree. -/
structure Stage where
  name : String
  transform : Node → Logged Node

/-- The stages of a pipeline, in the order in which they run. -/
structure Pipeline where
  stages : List Stage

namespace Stage

/-- Reports that the stage starts, and runs it. -/
def run (stage : Stage) (tree : Node) : Logged Node := do
  Logged.report (.stageStarted stage.name)
  stage.transform tree

end Stage

/-- The stage that highlights the spans of a delimiter. -/
def Delimiter.stage (delimiter : Delimiter) : Stage := ⟨"highlight", delimiter.highlight⟩

namespace Pipeline

/-- The names of the stages. -/
def stageNames (pipeline : Pipeline) : List String := pipeline.stages.map (·.name)

/-- Runs the stages over a tree. -/
def run (pipeline : Pipeline) (tree : Node) : Logged Node :=
  pipeline.stages.foldlM (fun tree stage => stage.run tree) tree

/-- Reads a source, and runs the stages over its tree. -/
def runParsed (pipeline : Pipeline) (parser : Parser) (source : String) : Logged Node := do
  pipeline.run (← parser.read source)

/-- The HTML of a source behind the stages. -/
def processParsed (pipeline : Pipeline) (parser : Parser) (source : String) (renderer : Renderer) :
    Logged String := do
  return renderer.render (← pipeline.runParsed parser source)

/-- Reads a Markdown source, and runs the stages over its tree. -/
def runSource (pipeline : Pipeline) (source : String) : Logged Node :=
  pipeline.runParsed Markdown.events source

/-- The HTML of a Markdown source behind the stages. -/
def process (pipeline : Pipeline) (source : String) (renderer : Renderer) : Logged String :=
  pipeline.processParsed Markdown.events source renderer

end Pipeline

end Highlighter
