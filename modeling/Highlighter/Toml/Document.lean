import Highlighter.Toml.Draft
import Highlighter.Toml.Quoted

/-!
# Documents

A document is a sequence of lines. A line gives a value to a key, or it begins a table, to which the lines below
belong. Blank lines and comments say nothing.
-/

namespace Highlighter.Toml

/-- How deeply arrays and inline tables may be nested. -/
def maxDepth : Nat := 80

/-! ## Keys -/

/-- A character of a key without quotes. -/
def isKeyChar (c : Char) : Bool := c.isAlphanum || c == '_' || c == '-'

/-- Reads a key. -/
def key? : List Char → Option (String × List Char)
  | '"' :: text => (basicString? text).map fun (key, rest) => (String.ofList key, rest)
  | '\'' :: text => (literalString? text).map fun (key, rest) => (String.ofList key, rest)
  | text =>
    match text.takeWhile isKeyChar with
    | [] => none
    | key => some (String.ofList key, text.dropWhile isKeyChar)

/-- Reads keys with dots between them: those on the way, and the last one. -/
def dottedKey? (text : List Char) : Option ((List String × String) × List Char) :=
  match key? text with
  | none => none
  | some (key, rest) =>
    match rest.dropWhile isBlank with
    | '.' :: more =>
      let next := more.dropWhile isBlank
      if _h : next.length < text.length then
        (dottedKey? next).map fun ((path, last), rest) => ((key :: path, last), rest)
      else none
    | rest => some (([], key), rest)
termination_by text.length

/-! ## Space -/

mutual

/-- Passes over blanks, line ends and comments. -/
def skipSpace? : List Char → Option (List Char)
  | [] => some []
  | '\n' :: text => skipSpace? text
  | '\r' :: '\n' :: text => skipSpace? text
  | '#' :: text => skipComment? text
  | c :: text => if isBlank c then skipSpace? text else some (c :: text)

/-- Passes over a comment behind its mark, and over the space that follows. -/
def skipComment? : List Char → Option (List Char)
  | [] => some []
  | '\n' :: text => skipSpace? text
  | '\r' :: '\n' :: text => skipSpace? text
  | c :: text => if isStringChar c then skipComment? text else none

end

mutual

/-- Space is passed over, never added. -/
theorem length_of_skipSpace? {text rest : List Char} (h : skipSpace? text = some rest) :
    rest.length ≤ text.length := by
  -- A line end, a comment and a blank each leave a shorter text to be passed over.
  unfold skipSpace? at h
  split at h
  · simp_all
  · have := length_of_skipSpace? h
    simp only [List.length_cons]
    omega
  · have := length_of_skipSpace? h
    simp only [List.length_cons]
    omega
  · have := length_of_skipComment? h
    simp only [List.length_cons]
    omega
  · split at h
    · have := length_of_skipSpace? h
      simp only [List.length_cons]
      omega
    · simp_all
termination_by text.length

/-- A comment is passed over, never added. -/
theorem length_of_skipComment? {text rest : List Char} (h : skipComment? text = some rest) :
    rest.length ≤ text.length := by
  -- The comment ends with its line, and every other character has to be allowed in it.
  unfold skipComment? at h
  split at h
  · simp_all
  · have := length_of_skipSpace? h
    simp only [List.length_cons]
    omega
  · have := length_of_skipSpace? h
    simp only [List.length_cons]
    omega
  · split at h
    · have := length_of_skipComment? h
      simp only [List.length_cons]
      omega
    · contradiction
termination_by text.length

end

/-- Passes over the rest of a line that says nothing more. -/
def restOfLine? (text : List Char) : Option (List Char) :=
  match text.dropWhile isBlank with
  | [] => some []
  | '#' :: comment =>
    match comment.dropWhile isStringChar with
    | [] => some []
    | rest => lineEnd? rest
  | rest => lineEnd? rest

/-! ## Values -/

mutual

/-- Reads a value. -/
def value? (depth : Nat) (text : List Char) : Option (Value × List Char) :=
  match text, depth with
  | '[' :: rest, depth + 1 =>
    (items? depth rest).map fun (items, rest) => (.array items, rest)
  | '\x7b' :: rest, depth + 1 => do
    let (assignments, rest) ← assignments? depth rest
    some (.table (Drafts.close (← Drafts.assignAll assignments [])), rest)
  | '"' :: _, _ => (string? text).map fun (value, rest) => (.string (String.ofList value), rest)
  | '\'' :: _, _ => (string? text).map fun (value, rest) => (.string (String.ofList value), rest)
  | _, _ =>
    let (scalar, rest) := takeScalar text
    (scalar? scalar).map (·, rest)
termination_by (depth, 4 * text.length + 0)

/-- Reads the items of an array, up to and with the closing bracket. -/
def items? (depth : Nat) (text : List Char) : Option (List Value × List Char) :=
  match _hs : skipSpace? text with
  | none => none
  | some (']' :: rest) => some ([], rest)
  | some start =>
    match value? depth start with
    | none => none
    | some (item, rest) =>
      match skipSpace? rest with
      | some (']' :: rest) => some ([item], rest)
      | some (',' :: rest) =>
        if _h : rest.length < text.length then
          (items? depth rest).map fun (items, rest) => (item :: items, rest)
        else none
      | _ => none
termination_by (depth, 4 * text.length + 1)
decreasing_by
  · have := length_of_skipSpace? _hs
    exact Prod.Lex.right _ (by omega)
  · exact Prod.Lex.right _ (by omega)

/-- Reads the assignments of an inline table, up to and with the closing brace. -/
def assignments? (depth : Nat) (text : List Char) :
    Option (List (List String × String × Value) × List Char) :=
  match _hs : skipSpace? text with
  | none => none
  | some ('\x7d' :: rest) => some ([], rest)
  | some start =>
    match assignment? depth start with
    | none => none
    | some (first, rest) =>
      match skipSpace? rest with
      | some ('\x7d' :: rest) => some ([first], rest)
      | some (',' :: rest) =>
        if _h : rest.length < text.length then
          (assignments? depth rest).map fun (more, rest) => (first :: more, rest)
        else none
      | _ => none
termination_by (depth, 4 * text.length + 2)
decreasing_by
  · have := length_of_skipSpace? _hs
    exact Prod.Lex.right _ (by omega)
  · exact Prod.Lex.right _ (by omega)

/-- Reads a dotted key, an equals sign and a value. -/
def assignment? (depth : Nat) (text : List Char) :
    Option ((List String × String × Value) × List Char) :=
  match dottedKey? text with
  | none => none
  | some ((path, key), rest) =>
    match rest.dropWhile isBlank with
    | '=' :: rest =>
      if _h : (rest.dropWhile isBlank).length < text.length then
        (value? depth (rest.dropWhile isBlank)).map fun (value, rest) => ((path, key, value), rest)
      else none
    | _ => none
termination_by (depth, 4 * text.length + 1)

end

/-! ## Lines -/

/-- What a line says. -/
inductive Statement where
  | assignment (path : List String) (key : String) (value : Value)
  | table (path : List String) (key : String)
  | nextTable (path : List String) (key : String)

/-- Reads a header behind its brackets, up to and with the closing ones. -/
def header? (closing : List Char) (text : List Char) : Option ((List String × String) × List Char) := do
  let (keys, rest) ← dottedKey? (text.dropWhile isBlank)
  let rest := rest.dropWhile isBlank
  if closing.isPrefixOf rest then some (keys, rest.drop closing.length) else none

/-- Reads what a line says behind its indentation. -/
def statement? : List Char → Option (Statement × List Char)
  | '[' :: '[' :: text =>
    (header? [']', ']'] text).map fun ((path, key), rest) => (.nextTable path key, rest)
  | '[' :: text => (header? [']'] text).map fun ((path, key), rest) => (.table path key, rest)
  | text =>
    (assignment? maxDepth text).map fun ((path, key, value), rest) =>
      (.assignment path key value, rest)

/-- Reads the lines of a document. -/
def statements? (text : List Char) : Option (List Statement) :=
  match skipSpace? text with
  | none => none
  | some [] => some []
  | some start => do
    let (statement, rest) ← statement? start
    let next ← restOfLine? rest
    if _h : next.length < text.length then
      let statements ← statements? next
      some (statement :: statements)
    else none
termination_by text.length

/-- The tables of a document so far, and the keys that lead to the one to which lines belong. -/
structure Progress where
  drafts : Drafts
  current : List String

/-- Takes up what a line says. -/
def Progress.take (progress : Progress) : Statement → Option Progress
  | .assignment path key value => do
    let drafts ← progress.drafts.within (Drafts.assign key value path) progress.current
    some { progress with drafts := drafts }
  | .table path key => do some ⟨← progress.drafts.startTable key path, path ++ [key]⟩
  | .nextTable path key => do some ⟨← progress.drafts.appendTable key path, path ++ [key]⟩

/-- Reads a document. A mark of the byte order in front of it is passed over. -/
def document? (text : String) : Option Table := do
  let chars := match text.toList with
    | '\ufeff' :: chars => chars
    | chars => chars
  let progress ← (← statements? chars).foldlM Progress.take ⟨[], []⟩
  some (Drafts.close progress.drafts)

end Highlighter.Toml
