import Highlighter.Main
import Highlighter.Proofs.Splitting
import Highlighter.Proofs.Walk.Replacement
import Highlighter.Proofs.Pass.Recursion
import Highlighter.Proofs.Pass.Sequence
import Highlighter.Proofs.Pass.Repetition
import Highlighter.Proofs.Builder.Forest
import Highlighter.Proofs.Builder.Texts
import Highlighter.Proofs.Builder.Shape
import Highlighter.Proofs.Pass.Shape
import Highlighter.Proofs.Pass.Literals
import Highlighter.Proofs.Html.Markup
import Highlighter.Proofs.Html.Rendering
import Highlighter.Proofs.Html.Safety
import Highlighter.Proofs.Pass.Restoration
import Highlighter.Proofs.Html.Expansion
import Highlighter.Proofs.Html.Shown
import Highlighter.Proofs.Builder.Names
import Highlighter.Proofs.Json.Reading
import Highlighter.Proofs.Pass.Dump
import Highlighter.Proofs.Toml.Document
import Highlighter.Proofs.Settings.Form
import Highlighter.Proofs.Files.Access
import Highlighter.Proofs.Settings.Storage
import Highlighter.Proofs.CommandLine.Steps
import Highlighter.Proofs.Pass.Reports
import Highlighter.Proofs.CommandLine.Rerun
import Highlighter.Proofs.Matches
import Highlighter.Proofs.Files.Changes
import Highlighter.Proofs.Files.Absence
import Highlighter.Proofs.CommandLine.Failures
import Highlighter.Proofs.CommandLine.Output
import Highlighter.Proofs.CommandLine.Sequence
import Highlighter.Proofs.Joining
import Highlighter.Proofs.Runs
import Highlighter.Proofs.Stripping
import Highlighter.Proofs.Pass.TextContent
import Highlighter.Proofs.Walk.Course
import Highlighter.Proofs.Walk.Substitution
import Highlighter.Proofs.Builder.Images
import Highlighter.Proofs.Source.Points
import Highlighter.Proofs.Source.LineTable
import Highlighter.Proofs.Source.Lookup
import Highlighter.Proofs.Source.Addresses
import Highlighter.Proofs.Builder.Positions
import Highlighter.Proofs.Builder.Repair
import Highlighter.Proofs.Html.CodeBlocks
import Highlighter.Proofs.Html.Redaction
import Highlighter.Proofs.Html.Overriding
