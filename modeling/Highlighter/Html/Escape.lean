/-!
# Escaping for HTML

In text the ampersand and the angle brackets are written as entities; in a quoted attribute value so is the
double quote. Nothing else is changed.
-/

namespace Highlighter.Html

/-- The form of a character in text. -/
def escapeTextChar : Char → List Char
  | '&' => ['&', 'a', 'm', 'p', ';']
  | '<' => ['&', 'l', 't', ';']
  | '>' => ['&', 'g', 't', ';']
  | c => [c]

/-- The form of a character in a double-quoted attribute value. -/
def escapeAttributeChar : Char → List Char
  | '"' => ['&', 'q', 'u', 'o', 't', ';']
  | c => escapeTextChar c

/-- A text as it is written between tags. -/
def escapeText (text : String) : String := String.ofList (text.toList.flatMap escapeTextChar)

/-- A text as it is written between double quotes. -/
def escapeAttribute (text : String) : String :=
  String.ofList (text.toList.flatMap escapeAttributeChar)

/-- A text is escaped piece by piece. -/
theorem escapeText_append (s t : String) : escapeText (s ++ t) = escapeText s ++ escapeText t := by
  simp [escapeText, String.ofList_append]

end Highlighter.Html
