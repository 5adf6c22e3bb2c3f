import Highlighter.Split
import Highlighter.Walk

/-!
# Highlight pass

Highlights a tree: each text below the root that has a span gives way to the nodes it is cut into, and the walk
goes on behind them, so nothing that the pass put in is looked at again.
-/

namespace Highlighter

namespace Delimiter

/-- What a pass remembers: how many texts it has changed, and its records, the last one first. -/
structure Progress where
  changed : Nat
  records : List Log.Record

/-- Replaces a text that has a span, and skips what took its place. -/
def visitText (delimiter : Delimiter) : Visitor Progress := fun progress siblings index =>
  match siblings[index]? with
  | some (.text value position) =>
    match delimiter.splitIfNeeded value position with
    | none => ⟨progress, siblings, .next⟩
    | some nodes =>
      let replaced := replaceChild siblings index nodes
      let (inserted, siblings) := replaced.value
      let split := .textSplit index delimiter.fence nodes.length
      ⟨⟨progress.changed + 1, replaced.records.reverse ++ split :: progress.records⟩, siblings,
        .skipTo (index + inserted)⟩
  | _ => ⟨progress, siblings, .next⟩

/-- Splits the texts below the root of a tree. As a budget the number of nodes is enough, for the walk
never goes back. -/
def highlight (delimiter : Delimiter) (tree : Node) : Logged Node :=
  match Walk.texts delimiter.visitText tree.size ⟨0, []⟩ tree with
  | none => .silent tree
  | some walked =>
    let (progress, tree) := walked.value
    ⟨tree, walked.records ++ progress.records.reverse ++ [.passDone progress.changed]⟩

end Delimiter

end Highlighter
