import Highlighter.Source.LineIndex
import Highlighter.Unicode.Classes

/-!
# Delimiters

A highlighted span stands between two pairs of markers: `MM content MM`, where the content is not empty
and holds no marker. A text is cut at its spans from left to right, so spans neither overlap nor nest, and
of a run of three markers the last two open a span.
-/

namespace Highlighter

/-- The marker whose pairs bound a highlighted span. It is no white space. -/
structure Delimiter where
  marker : Char
  marker_visible : Unicode.isWhiteSpace marker = false
deriving DecidableEq

/-- Why a character is no marker. -/
inductive DelimiterError where
  | whiteSpaceMarker (marker : Char)
deriving DecidableEq, Repr

/-- The digits of a number in base 16, in lower case and without leading zeros. -/
def hexDigits (n : Nat) : String := String.ofList (Nat.toDigits 16 n)

/-- A blank character in single quotes: the three common ones by their escapes, the space as itself,
any other by its code point. -/
def quoteBlank (c : Char) : String :=
  match c with
  | '\t' => "'\\t'"
  | '\n' => "'\\n'"
  | '\r' => "'\\r'"
  | ' ' => "' '"
  | _ => "'\\u\x7b" ++ hexDigits c.toNat ++ "\x7d'"

namespace DelimiterError

/-- The wording of the error. -/
def message : DelimiterError → String
  | whiteSpaceMarker marker =>
    "Invalid highlight marker " ++ quoteBlank marker ++ ": markers must not be whitespace"

end DelimiterError

/-- A piece of a text: plain, or the content of a span. -/
inductive Segment where
  | plain (text : List Char)
  | marked (content : List Char)
deriving DecidableEq, Repr

namespace Segment

/-- Whether a segment is the content of a span. -/
def isMarked : Segment → Bool
  | plain _ => false
  | marked _ => true

end Segment

/-- A span found in a text: the bytes it takes with its markers, and its content. -/
structure Match where
  start : Nat
  stop : Nat
  content : String
deriving DecidableEq, Repr

/-- Reads a span at the front of a text, and gives its content and what follows it. -/
def spanAtFront? (marker : Char) : List Char → Option (List Char × List Char)
  | a :: b :: text =>
    if a = marker ∧ b = marker then
      match text.takeWhile (· ≠ marker), text.dropWhile (· ≠ marker) with
      | c :: content, _ :: d :: rest => if d = marker then some (c :: content, rest) else none
      | _, _ => none
    else none
  | _ => none

/-- What follows a span is shorter than the text. -/
theorem length_lt_of_spanAtFront? {marker : Char} {text content rest : List Char}
    (h : spanAtFront? marker text = some (content, rest)) : rest.length < text.length := by
  match text with
  | [] => simp [spanAtFront?] at h
  | [_] => simp [spanAtFront?] at h
  | a :: b :: text =>
    simp only [spanAtFront?] at h
    split at h
    · -- The span is what stands before the next marker, and the rest begins behind its two closing markers.
      split at h
      · next hdrop =>
        split at h
        · have hle := (List.dropWhile_suffix (l := text) (· ≠ marker)).length_le
          rw [hdrop] at hle
          simp only [Option.some.injEq, Prod.mk.injEq] at h
          simp only [List.length_cons, ← h.2] at hle ⊢
          omega
        · contradiction
      · contradiction
    · contradiction

/-- Puts a character in front of the first plain segment. -/
def consPlain (c : Char) : List Segment → List Segment
  | .plain text :: segments => .plain (c :: text) :: segments
  | segments => .plain [c] :: segments

/-- Cuts a text at its spans, from left to right. -/
def segments (marker : Char) (text : List Char) : List Segment :=
  match _h : spanAtFront? marker text with
  | some (content, rest) => .marked content :: segments marker rest
  | none =>
    match text with
    | [] => []
    | c :: text => consPlain c (segments marker text)
termination_by text.length
decreasing_by
  · exact length_lt_of_spanAtFront? _h
  · simp

/-- The spans among segments of which the first starts at the given offset. -/
def matchesFrom (marker : Char) (offset : Nat) : List Segment → List Match
  | [] => []
  | .plain text :: segments => matchesFrom marker (offset + byteLength text) segments
  | .marked content :: segments =>
    let stop := offset + 4 * marker.utf8Size + byteLength content
    ⟨offset, stop, String.ofList content⟩ :: matchesFrom marker stop segments

namespace Delimiter

/-- The delimiter with a marker, unless the marker is white space. -/
def ofMarker (marker : Char) : Except DelimiterError Delimiter :=
  if h : Unicode.isWhiteSpace marker = false then .ok ⟨marker, h⟩
  else .error (.whiteSpaceMarker marker)

/-- The delimiter used unless another is asked for. -/
def standard : Delimiter := ⟨'!', by decide⟩

instance : Inhabited Delimiter := ⟨standard⟩

/-- The marker pair on either side of a span. -/
def fence (delimiter : Delimiter) : String := String.ofList [delimiter.marker, delimiter.marker]

/-- The spans of a text, from left to right. -/
def findMatches (delimiter : Delimiter) (text : String) : List Match :=
  matchesFrom delimiter.marker 0 (segments delimiter.marker text.toList)

/-- Whether a text has a span. -/
def isMatch (delimiter : Delimiter) (text : String) : Bool :=
  (segments delimiter.marker text.toList).any (·.isMarked)

/-- A delimiter is made from each character but white space. -/
theorem ofMarker_eq_ok_iff {marker : Char} {delimiter : Delimiter} :
    ofMarker marker = .ok delimiter ↔ delimiter.marker = marker := by
  unfold ofMarker
  split
  · simp only [Except.ok.injEq]
    constructor
    · rintro rfl
      rfl
    · intro h
      -- Two delimiters with one marker are the same, for the rest of a delimiter is a proof.
      cases delimiter
      subst h
      rfl
  · next h =>
    simp only [reduceCtorEq, false_iff]
    rintro rfl
    exact h delimiter.marker_visible

end Delimiter

end Highlighter
