import Highlighter.Toml.Scalar

/-!
# Tables in the making

The statements of a document fill tables bit by bit. A table may be begun by a header, by a dotted key, or because
something inside it is named; what may be added to it later depends on that.
-/

namespace Highlighter.Toml

/-- What began a table. -/
inductive TableKind where
  /-- Something inside it was named by a header. -/
  | implied
  | header
  /-- Something inside it was named by a dotted key. -/
  | dotted
deriving DecidableEq

/-- What a key stands for so far. -/
inductive Draft where
  /-- A value that is complete. -/
  | value (value : Value)
  | table (kind : TableKind) (entries : List (String × Draft))
  /-- A list of tables, of which the last one may still grow. -/
  | tables (earlier : List Value) (last : List (String × Draft))

/-- The keys of a table in the making. -/
abbrev Drafts := List (String × Draft)

namespace Drafts

/-- Changes what a key stands for, if it stands for anything yet; the change may be refused. -/
def change (key : String) (f : Option Draft → Option Draft) : Drafts → Option Drafts
  | [] => (f none).map fun draft => [(key, draft)]
  | (other, draft) :: drafts =>
    if other = key then (f (some draft)).map fun draft => (other, draft) :: drafts
    else (change key f drafts).map ((other, draft) :: ·)

/-! ## Complete values -/

mutual

/-- The value of a draft. -/
def closeDraft : Draft → Value
  | .value value => value
  | .table _ entries => .table (close entries)
  | .tables earlier last => .array (earlier ++ [.table (close last)])

/-- The values of the keys of a table. -/
def close : List (String × Draft) → Table
  | [] => []
  | (key, draft) :: drafts => (key, closeDraft draft) :: close drafts

end

/-! ## Statements -/

/-- Gives a value to a dotted key. The tables on the way to it may be new, or begun by a dotted key as well. -/
def assign (key : String) (value : Value) : List String → Drafts → Option Drafts
  | [], drafts =>
    drafts.change key fun
      | none => some (.value value)
      | some _ => none
  | outer :: path, drafts =>
    drafts.change outer fun
      | none => (assign key value path []).map (.table .dotted)
      | some (.value _) => none
      | some (.table kind inner) =>
        if kind = .dotted ∨ (kind = .implied ∧ path ≠ []) then
          (assign key value path inner).map (.table kind)
        else none
      | some (.tables earlier last) =>
        if path = [] then none else (assign key value path last).map (.tables earlier)

/-- Changes the table that keys lead to, in a list of tables the last one. Tables on the way to it may be new. -/
def within (f : Drafts → Option Drafts) : List String → Drafts → Option Drafts
  | [], drafts => f drafts
  | outer :: path, drafts =>
    drafts.change outer fun
      | none => (within f path []).map (.table .implied)
      | some (.value _) => none
      | some (.table kind inner) => (within f path inner).map (.table kind)
      | some (.tables earlier last) => (within f path last).map (.tables earlier)

/-- Begins a table by its header. It must not have been begun before, unless something inside it was. -/
def startTable (key : String) (path : List String) (drafts : Drafts) : Option Drafts :=
  drafts.within (fun drafts =>
    drafts.change key fun
      | none => some (.table .header [])
      | some (.table .implied inner) => some (.table .header inner)
      | some _ => none) path

/-- Begins the next table of a list of tables. -/
def appendTable (key : String) (path : List String) (drafts : Drafts) : Option Drafts :=
  drafts.within (fun drafts =>
    drafts.change key fun
      | none => some (.tables [] [])
      | some (.tables earlier last) => some (.tables (earlier ++ [.table (close last)]) [])
      | some _ => none) path

/-- Gives values to dotted keys, each with the keys on the way to it. -/
def assignAll (assignments : List (List String × String × Value)) (drafts : Drafts) :
    Option Drafts :=
  assignments.foldlM (fun drafts (path, key, value) => drafts.assign key value path) drafts

end Drafts

end Highlighter.Toml
