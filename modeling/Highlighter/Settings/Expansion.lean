import Highlighter.Unicode.Classes

/-!
# Expansion of variables

A text may name variables of the environment, as `$NAME` or `${NAME}`, the latter also with a text that stands in
for a variable that is not set. A tilde in front of the text stands for the home directory. A text that names a
variable without a value has no expansion.
-/

namespace Highlighter

/-- The environment of a run. -/
structure Environment where
  bindings : List (String × String)
  /-- The home directory of the account, where no variable names one. -/
  accountHome : Option String

namespace Environment

/-- The value of a variable. -/
def value? (environment : Environment) (name : String) : Option String :=
  if name = "" then none else environment.bindings.lookup name

/-- The home directory. -/
def home? (environment : Environment) : Option String :=
  match environment.value? "HOME" with
  | none | some "" => environment.accountHome
  | some home => some home

end Environment

namespace Expansion

/-- A part of a text with variables. -/
inductive Part where
  | literal (text : List Char)
  /-- A variable, with the text that stands in for it. -/
  | reference (name : List Char) (standIn : Option (List Char))
deriving DecidableEq, Repr

/-- A character of a name without braces. -/
def isNameChar (c : Char) : Bool := Unicode.isAlphanumeric c || c = '_'

/-- Cuts a text at the first colon that a hyphen follows. -/
def cutStandIn? : List Char → Option (List Char × List Char)
  | [] => none
  | ':' :: '-' :: text => some ([], text)
  | c :: text => (cutStandIn? text).map fun (name, standIn) => (c :: name, standIn)

/-- What stands between braces: a name, and perhaps a stand-in for it. Without a name there is no stand-in. -/
def braced (inside : List Char) : Part :=
  match cutStandIn? inside with
  | none | some ([], _) => .reference inside none
  | some (name, standIn) => .reference name (some standIn)

/-- Cuts a text into its parts. A dollar sign that names nothing is a part of the text, and two dollar signs stand for
one. -/
def parts (text : List Char) : List Part :=
  match text with
  | [] => []
  | '$' :: '\x7b' :: rest =>
    match _h : rest.dropWhile (· ≠ '\x7d') with
    | [] => .literal ['$', '\x7b'] :: parts rest
    | _ :: after => braced (rest.takeWhile (· ≠ '\x7d')) :: parts after
  | '$' :: '$' :: rest => .literal ['$'] :: parts rest
  | '$' :: c :: rest =>
    if isNameChar c then
      .reference (c :: rest.takeWhile isNameChar) none :: parts (rest.dropWhile isNameChar)
    else .literal ['$'] :: parts (c :: rest)
  | c :: rest => .literal [c] :: parts rest
termination_by text.length
decreasing_by
  · simp only [List.length_cons]
    omega
  · have := (List.dropWhile_suffix (l := rest) (· ≠ '\x7d')).length_le
    simp only [_h, List.length_cons] at this ⊢
    omega
  · simp only [List.length_cons]
    omega
  · have := (List.dropWhile_suffix (l := rest) isNameChar).length_le
    simp only [List.length_cons]
    omega
  · simp
  · simp

/-- The text of a part, unless it is a variable without a value. -/
def Part.value? (environment : Environment) : Part → Option (List Char)
  | literal text => some text
  | reference name standIn =>
    ((environment.value? (String.ofList name)).map String.toList).or standIn

/-- A text with the home directory in place of a tilde that stands alone or before a slash. -/
def expandTilde (environment : Environment) (text : List Char) : List Char :=
  match text, environment.home? with
  | ['~'], some home => home.toList
  | '~' :: '/' :: rest, some home => home.toList ++ '/' :: rest
  | text, _ => text

/-- A text with its variables and its tilde expanded. A tilde that comes out of a variable stays. -/
def expand? (environment : Environment) (text : String) : Option String := do
  let expanded := (← (parts text.toList).mapM (Part.value? environment)).flatten
  if text.toList.head? = some '~' then
    some (String.ofList (expandTilde environment expanded))
  else some (String.ofList expanded)

end Expansion

end Highlighter
