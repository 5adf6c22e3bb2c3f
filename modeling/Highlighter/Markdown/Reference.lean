import Highlighter.Unicode.CaseFold

/-!
# Reference definitions

A definition gives a destination and perhaps a title to a label. Labels are compared without regard to case; of
two definitions of one label the first counts.

Each reference to a label copies what the label is defined as. So that a short document does not become a long one,
there is an allowance for what the references of a document copy; once it is used up, no label is defined any more.
-/

namespace Highlighter.Markdown

/-- What a label is defined as. -/
structure Definition where
  destination : String
  title : Option String
deriving Repr

namespace Definition

/-- The title, which is empty if there is none. -/
def titleText (definition : Definition) : String := definition.title.getD ""

/-- The bytes that a reference copies. -/
def size (definition : Definition) : Nat :=
  definition.destination.utf8ByteSize + definition.titleText.utf8ByteSize

end Definition

/-- The allowance of a document for what its references copy, from the bytes that it takes. -/
def referenceAllowance (bytes : Nat) : Nat := max bytes 100000

/-- The definitions of a document, by folded label. -/
structure Definitions where
  entries : List (String × Definition)

namespace Definitions

/-- No definitions. -/
def empty : Definitions := ⟨[]⟩

/-- The definition of a label. -/
def find? (definitions : Definitions) (label : String) : Option Definition :=
  definitions.entries.lookup (Unicode.foldCase label)

/-- Defines a label, unless it is defined already. -/
def define (definitions : Definitions) (label : String) (definition : Definition) : Definitions :=
  match definitions.find? label with
  | some _ => definitions
  | none => ⟨(Unicode.foldCase label, definition) :: definitions.entries⟩

/-- What a reference to a label copies, and the allowance that it leaves. A reference may copy more than is left. -/
def refer? (definitions : Definitions) (allowance : Nat) (label : String) : Option (Definition × Nat) :=
  if allowance = 0 then none
  else (definitions.find? label).map fun definition => (definition, allowance - definition.size)

end Definitions

end Highlighter.Markdown
