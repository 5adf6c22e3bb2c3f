import Highlighter.Event
import Highlighter.Markdown.Token

/-!
# Emphasis

Inline elements, and the rule by which runs of emphasis marks become emphasis. A run that may close looks for the
nearest run of its mark that may open; what stands between the two is emphasised, two marks at a time for strong
emphasis. Marks that are left over are text.
-/

namespace Highlighter.Markdown

/-- A piece of inline text. -/
inductive Inline where
  | text (value : String) (start stop : Nat)
  | code (value : String) (start stop : Nat)
  | html (value : String) (start stop : Nat)
  | footnote (label : String) (start stop : Nat)
  | softBreak (start stop : Nat)
  | hardBreak (backslash : Bool) (start stop : Nat)
  | task (checked : Bool) (start stop : Nat)
  /-- A run of emphasis marks whose meaning is open. -/
  | marks (mark : Char) (count : Nat) (opens closes : Bool) (start : Nat)
  /-- An element around other pieces. -/
  | nested (tag : Tag) (children : List Inline) (start stop : Nat)

/-- A run of emphasis marks that waits for a run that closes it. -/
structure Opener where
  mark : Char
  /-- The marks that are still to be closed. -/
  count : Nat
  /-- The length that the run had. -/
  length : Nat
  /-- Whether the run may also close. -/
  closes : Bool
  start : Nat
  /-- The pieces behind it, the last one first. -/
  behind : List Inline

/-- A kind of closing run, as far as a failed search for an opener tells something about later searches. -/
structure CloserKind where
  mark : Char
  /-- Whether the run may also open. Then it counts by its length modulo three, else its length does not count. -/
  remainder : Option Nat
deriving DecidableEq

/-- Runs of emphasis marks being resolved. -/
structure Resolver where
  /-- The runs that wait, the last one first. -/
  openers : List Opener
  /-- The pieces before the first of them, the last one first. -/
  settled : List Inline
  /-- For kinds of closing runs, how many of the first openers are known not to match. -/
  bounds : List (CloserKind × Nat)

/-- Marks that are text after all. -/
def marksAsText (mark : Char) (count start : Nat) : List Inline :=
  if count = 0 then []
  else [.text (String.ofList (List.replicate count mark)) start (start + count)]

namespace Resolver

/-- Nothing has been resolved. -/
def start : Resolver := ⟨[], [], []⟩

/-- Adds pieces, the last one first, behind the last opener. -/
def add (resolver : Resolver) (reversed : List Inline) : Resolver :=
  match resolver.openers with
  | [] => { resolver with settled := reversed ++ resolver.settled }
  | opener :: openers =>
    { resolver with openers := { opener with behind := reversed ++ opener.behind } :: openers }

/-- The pieces of an opener that is text after all, the last one first. -/
def openerAsText (opener : Opener) : List Inline :=
  opener.behind ++ marksAsText opener.mark opener.count opener.start

/-- The kind of closing runs that a run belongs to. Tildes make one kind. -/
def kindOf (mark : Char) (length : Nat) (opens : Bool) : CloserKind :=
  ⟨mark, if mark ≠ '~' ∧ opens then some (length % 3) else none⟩

/-- How many of the first openers cannot match a run. -/
def bound (resolver : Resolver) (mark : Char) (length : Nat) (opens : Bool) : Nat :=
  let known (kind : CloserKind) : Nat := (resolver.bounds.lookup kind).getD 0
  let byRemainder := known ⟨mark, some (length % 3)⟩
  if mark = '~' then known ⟨mark, none⟩
  else if opens then byRemainder
  else min byRemainder (known ⟨mark, none⟩)

/-- Whether a closing run matches an opener. Runs that may both open and close do not match if their lengths add
up to a multiple of three, unless both are multiples of three; tildes match tildes of the same number. -/
def matchesOpener (mark : Char) (length : Nat) (opens : Bool) (opener : Opener) : Bool :=
  opener.mark == mark && !(mark == '~' && length != opener.length)
    && ((!opens && !opener.closes) || (length + opener.length) % 3 != 0 || length % 3 == 0)

/-- Looks for the nearest opener that a closing run matches, among those that are not ruled out: the openers behind
it, itself, and those before it. -/
def findOpener? (mark : Char) (length : Nat) (opens : Bool) (bound : Nat) (behind : List Opener) :
    List Opener → Option (List Opener × Opener × List Opener)
  | [] => none
  | opener :: openers =>
    if openers.length < bound then none
    else if matchesOpener mark length opens opener then some (behind.reverse, opener, openers)
    else findOpener? mark length opens bound (opener :: behind) openers

/-- The element that marks make: one of a single mark, or one of two. -/
def emphasisTag (mark : Char) (double : Bool) : Tag :=
  if mark = '~' then .strikethrough else if double then .strong else .emphasis

/-- Emphasises pieces by so many marks on either side, from the inside out. -/
def emphasise (mark : Char) (children : List Inline) (start stop : Nat) : Nat → List Inline
  | 0 => children
  | 1 => [.nested (emphasisTag mark false) children (start - 1) (stop + 1)]
  | count + 2 =>
    emphasise mark [.nested (emphasisTag mark true) children (start - 2) (stop + 2)]
      (start - 2) (stop + 2) count

/-- Closes openers by a run of so many marks, and gives the resolver with the marks that are left and where they
start. -/
def closeMarks (mark : Char) (length : Nat) (opens : Bool) (resolver : Resolver) (count start : Nat) :
    Resolver × Nat × Nat :=
  if count = 0 then (resolver, 0, start)
  else
    let bound := min resolver.openers.length (resolver.bound mark length opens)
    match findOpener? mark length opens bound [] resolver.openers with
    | none =>
      -- No later run of this kind need look at these openers again.
      let entry := (kindOf mark length opens, resolver.openers.length)
      let bounds := entry :: resolver.bounds.filter (·.1 ≠ entry.1)
      ({ resolver with bounds := bounds }, count, start)
    | some (unmatched, opener, before) =>
      let used := min count opener.count
      if used = 0 then (resolver, count, start)
      else
        let children := (unmatched.flatMap openerAsText ++ opener.behind).reverse
        let made := emphasise mark children (opener.start + opener.count) start used
        -- Openers behind the match are gone, so nothing is known about their places any more.
        let bounds := resolver.bounds.map fun entry => (entry.1, min entry.2 before.length)
        let rest : Resolver := ⟨before, resolver.settled, bounds⟩
        let rest :=
          if used < opener.count then
            { rest with openers :=
                { opener with count := opener.count - used, behind := made } :: before }
          else rest.add made
        closeMarks mark length opens rest (count - used) (start + used)
termination_by count
decreasing_by omega

/-- Takes the next piece. -/
def take (resolver : Resolver) : Inline → Resolver
  | .marks mark count opens closes start =>
    let (resolver, left, start) :=
      if closes then closeMarks mark count opens resolver count start else (resolver, count, start)
    if left = 0 then resolver
    else if opens then
      { resolver with openers := ⟨mark, left, count, closes, start, []⟩ :: resolver.openers }
    else resolver.add (marksAsText mark left start)
  | piece => resolver.add [piece]

/-- The pieces in order, with the openers that are left as text. -/
def finish (resolver : Resolver) : List Inline :=
  (resolver.openers.flatMap openerAsText ++ resolver.settled).reverse

end Resolver

/-- Whether a piece is a run of emphasis marks. -/
def Inline.isMarks : Inline → Bool
  | .marks .. => true
  | _ => false

/-- A backslash before a line break is text if the line break is the last piece. -/
def settleLastBreak (pieces : List Inline) : List Inline :=
  match pieces.reverse with
  | .hardBreak true start stop :: earlier => (.text "\\" start stop :: earlier).reverse
  | _ => pieces

/-- Resolves the runs of emphasis marks among pieces that stand beside each other. -/
def resolveEmphasis (pieces : List Inline) : List Inline :=
  if pieces.any (·.isMarks) then
    (settleLastBreak pieces).foldl Resolver.take .start |>.finish
  else pieces

end Highlighter.Markdown
