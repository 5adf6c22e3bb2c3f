/-!
# Log records

What a run reports beside its result: a cause for each record, one wording for each cause, and values
that carry the records made on the way to them.
-/

namespace Highlighter

namespace Log

/-- How weighty a record is. -/
inductive Level where
  | trace
  | debug
  | info
  | warn
deriving DecidableEq, Repr

/-- The name of a level, as it stands in front of a message. -/
def Level.name : Level → String
  | .trace => "TRACE"
  | .debug => "DEBUG"
  | .info => "INFO"
  | .warn => "WARN"

/-- Something worth reporting. -/
inductive Record where
  /-- An event closed an element while none was open. -/
  | unbalancedEnd
  /-- A walk was asked for on a lone text. -/
  | childlessRoot
  /-- A child was to be replaced at an index that does not exist. -/
  | indexOutOfRange (index length : Nat)
  /-- A text was cut into nodes. -/
  | textSplit (index : Nat) (fence : String) (count : Nat)
  /-- A highlight pass came to its end. -/
  | passDone (changed : Nat)
  /-- A stage of a pipeline starts. -/
  | stageStarted (name : String)
  /-- The settings were saved. -/
  | settingsWritten (path : String)
  /-- A document is about to be read. -/
  | highlighting (fence path : String)
  /-- The tree dump was written. -/
  | treeWritten (path : String)
  /-- The page was written. -/
  | pageWritten (path : String)
deriving DecidableEq, Repr

namespace Record

/-- The level of a record. -/
def level : Record → Level
  | unbalancedEnd => .warn
  | childlessRoot => .trace
  | indexOutOfRange .. => .trace
  | textSplit .. => .debug
  | passDone .. => .debug
  | stageStarted .. => .debug
  | settingsWritten .. => .info
  | highlighting .. => .info
  | treeWritten .. => .info
  | pageWritten .. => .info

/-- The wording of a record. -/
def message : Record → String
  | unbalancedEnd => "Unbalanced end event ignored"
  | childlessRoot => "Root has no children, nothing to visit"
  | indexOutOfRange index length =>
    "replace_child index " ++ toString index ++ " out of range (len " ++ toString length ++ ")"
  | textSplit index fence count =>
    "Splitting text node at index " ++ toString index ++ " on " ++ fence ++ " into "
      ++ toString count ++ " nodes"
  | passDone changed => "Highlight pass rewrote " ++ toString changed ++ " text nodes"
  | stageStarted name => "Running stage '" ++ name ++ "'"
  | settingsWritten path => "Config written to " ++ path
  | highlighting fence path => "Highlighting " ++ fence ++ " spans in " ++ path
  | treeWritten path => "Tree written to " ++ path
  | pageWritten path => "HTML written to " ++ path

/-- A record as one line: its level and its wording. -/
def line (record : Record) : String := record.level.name ++ " " ++ record.message

end Record

end Log

/-- A value with the records made on the way to it, in order. -/
structure Logged (α : Type) where
  value : α
  records : List Log.Record

namespace Logged

/-- A value that nothing was reported about. -/
def silent {α : Type} (value : α) : Logged α := ⟨value, []⟩

/-- Goes on with a value, after the records made so far. -/
def andThen {α β : Type} (first : Logged α) (next : α → Logged β) : Logged β :=
  ⟨(next first.value).value, first.records ++ (next first.value).records⟩

instance : Monad Logged where
  pure := silent
  bind := andThen

/-- Reports a record. -/
def report (record : Log.Record) : Logged Unit := ⟨(), [record]⟩

@[simp] theorem value_pure {α : Type} (a : α) : (pure a : Logged α).value = a := rfl

@[simp] theorem value_bind {α β : Type} (first : Logged α) (next : α → Logged β) :
    (first >>= next).value = (next first.value).value := rfl

@[simp] theorem records_pure {α : Type} (a : α) : (pure a : Logged α).records = [] := rfl

@[simp] theorem records_bind {α β : Type} (first : Logged α) (next : α → Logged β) :
    (first >>= next).records = first.records ++ (next first.value).records := rfl

end Logged

end Highlighter
