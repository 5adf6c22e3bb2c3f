import Highlighter.Pipeline
import Highlighter.Proofs.Builder.Steps
import Highlighter.Proofs.Pass.Recursion

/-!
# What reading and highlighting report

Main statement: nothing that is reported while a source is read and highlighted is information for the user. So the
information that a run gives is only about its files.

An event is reported if it closes nothing, and a pass reports each text that it cuts, and its end.
-/

namespace Highlighter

/-- No record is information for the user. -/
def Quiet (records : List Log.Record) : Prop := ∀ record ∈ records, record.level ≠ .info

theorem quiet_nil : Quiet [] := nofun

theorem quiet_cons {record : Log.Record} {records : List Log.Record} :
    Quiet (record :: records) ↔ record.level ≠ .info ∧ Quiet records := List.forall_mem_cons

theorem quiet_append {xs ys : List Log.Record} : Quiet (xs ++ ys) ↔ Quiet xs ∧ Quiet ys := List.forall_mem_append

theorem quiet_reverse {records : List Log.Record} : Quiet records.reverse ↔ Quiet records := by
  simp only [Quiet, List.mem_reverse]

/-! ## Reading -/

namespace Builder

theorem Step.quiet {builder next : Builder} {position : Position} {event : Event}
    (h : builder.Step position event next) (hquiet : Quiet builder.records) : Quiet next.records := by
  cases h with
  | opened tag => exact hquiet
  | kept last => exact quiet_cons.mpr ⟨by decide, hquiet⟩
  | closed parent outer around => exact hquiet
  | marked checked =>
    rw [mark]
    split <;> exact hquiet
  | added event part given => exact hquiet

theorem quiet_feedAll {builder : Builder} (hquiet : Quiet builder.records) (events : List (Event × ByteRange)) :
    Quiet (builder.feedAll events).records := by
  induction events generalizing builder with
  | nil => exact hquiet
  | cons event events ih =>
    rw [feedAll_cons]
    exact ih ((builder.step_feed event.1 event.2).quiet hquiet)

end Builder

theorem quiet_treeOfEvents (source : String) (events : List (Event × ByteRange)) :
    Quiet (treeOfEvents source events).records := by
  apply quiet_reverse.mpr
  exact Builder.quiet_feedAll quiet_nil events

/-! ## Highlighting -/

namespace Delimiter

variable (delimiter : Delimiter)

theorem quiet_rule {progress : Progress} (hquiet : Quiet progress.records) (index : Nat) (value : String)
    (position : Option Position) : Quiet (delimiter.rule progress index value position).1.records := by
  rw [rule]
  split
  · exact hquiet
  · exact quiet_cons.mpr ⟨by simp [Log.Record.level], hquiet⟩

theorem quiet_rewriteAmong {progress : Progress} (hquiet : Quiet progress.records) (index : Nat) (nodes : List Node) :
    Quiet (delimiter.rule.rewriteAmong progress index nodes).1.records := by
  induction nodes using Node.forestInduction generalizing progress index with
  | nil => simpa [Walk.Rule.rewriteAmong] using hquiet
  | text value position nodes ih =>
    simp only [Walk.Rule.rewriteAmong]
    exact ih (delimiter.quiet_rule hquiet index value position) _
  | parent node children nodes hchildren ihchildren ihnodes =>
    rw [delimiter.rule.rewriteAmong_of_children? _ _ hchildren]
    exact ihnodes (ihchildren hquiet 0) (index + 1)

theorem quiet_highlight (tree : Node) : Quiet (delimiter.highlight tree).records := by
  have hwalk := delimiter.rule.texts_visitor ⟨0, []⟩ tree (Nat.le_refl _)
  rw [← visitText_eq] at hwalk
  simp only [highlight, hwalk]
  -- A text has nothing below it, and whatever has children is walked.
  have hbelow : Quiet (delimiter.rule.rewriteBelow ⟨0, []⟩ tree).1.records := by
    cases hchildren : tree.children? with
    | none =>
      obtain ⟨value, position, rfl⟩ := Node.eq_text_of_children? hchildren
      exact quiet_nil
    | some children =>
      rw [delimiter.rule.rewriteBelow_of_children? _ hchildren]
      exact delimiter.quiet_rewriteAmong quiet_nil 0 children
  refine quiet_append.mpr ⟨quiet_append.mpr ⟨?_, quiet_reverse.mpr hbelow⟩, ?_⟩
  · -- The records in front are about a text in the place of the root, and the last one counts.
    split
    · exact quiet_cons.mpr ⟨by decide, quiet_nil⟩
    · exact quiet_nil
  · exact quiet_cons.mpr ⟨by simp [Log.Record.level], quiet_nil⟩

/-- Reading a source and highlighting it reports nothing that is information for the user. -/
theorem quiet_runParsed (parser : Parser) (source : String) :
    Quiet (Pipeline.runParsed ⟨[delimiter.stage]⟩ parser source).records := by
  have hread : Quiet (parser.read source).records := quiet_treeOfEvents source _
  have hpass := delimiter.quiet_highlight (parser.read source).value
  simp only [Pipeline.runParsed, Pipeline.run, Logged.records_bind, List.foldlM_cons, List.foldlM_nil, Stage.run, stage,
    Logged.records_pure, Logged.report, List.append_nil]
  exact quiet_append.mpr ⟨hread, quiet_append.mpr ⟨quiet_cons.mpr ⟨by decide, quiet_nil⟩, hpass⟩⟩

end Delimiter

end Highlighter
