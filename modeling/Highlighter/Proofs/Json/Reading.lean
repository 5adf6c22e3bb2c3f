import Highlighter.Json.Value
import Mathlib.Data.List.Basic

/-!
# Reading JSON back

A JSON text is a row of tokens: brackets, strings, numbers and truth values. What stands between them is layout, and
says nothing. Main statements: values that are written alike are equal, in the compact layout and in the indented one.

Both layouts write the same tokens with different gaps between them, so one reader gives the tokens back from either. The
tokens of a value end where the value does, so they tell where one item of an array ends and the next one begins.
-/

namespace Highlighter

namespace Json

/-! ## Strings -/

/-- The value of a hexadecimal digit in lower case. -/
def hexValue (c : Char) : Nat := if c.toNat < 58 then c.toNat - 48 else c.toNat - 87

/-- The character that a letter behind a backslash stands for. -/
def unescape? : Char → Option Char
  | '"' => some '"'
  | '\\' => some '\\'
  | 'b' => some '\x08'
  | 't' => some '\t'
  | 'n' => some '\n'
  | 'f' => some '\x0c'
  | 'r' => some '\r'
  | _ => none

/-- Reads a string behind its opening quote, up to and with the closing one. -/
def readString : List Char → Option (List Char × List Char)
  | [] => none
  | '"' :: rest => some ([], rest)
  | '\\' :: 'u' :: '0' :: '0' :: high :: low :: rest =>
    (readString rest).map fun (value, rest) => (Char.ofNat (16 * hexValue high + hexValue low) :: value, rest)
  | '\\' :: letter :: rest =>
    (unescape? letter).bind fun c => (readString rest).map fun (value, rest) => (c :: value, rest)
  | c :: rest => (readString rest).map fun (value, rest) => (c :: value, rest)

theorem length_of_readString {text value rest : List Char} (h : readString text = some (value, rest)) :
    rest.length < text.length := by
  fun_induction readString text generalizing value with
  -- The text ends inside the string.
  | case1 => simp at h
  | case2 rest => simp_all
  | case3 high low text ih | case5 c text _ _ _ ih =>
    -- A character or a code point is taken off, and the rest is shorter by induction.
    obtain ⟨⟨before, rest⟩, hread, heq⟩ := Option.map_eq_some_iff.mp h
    obtain ⟨-, rfl⟩ := Prod.mk.inj heq
    have := ih hread
    simp only [List.length_cons]
    omega
  | case4 letter text _ ih =>
    -- So is an escape, if there is one with its letter.
    obtain ⟨c, -, hmap⟩ := Option.bind_eq_some_iff.mp h
    obtain ⟨⟨before, rest⟩, hread, heq⟩ := Option.map_eq_some_iff.mp hmap
    obtain ⟨-, rfl⟩ := Prod.mk.inj heq
    have := ih hread
    simp only [List.length_cons]
    omega

theorem hexValue_hexDigit : ∀ n < 16, hexValue (hexDigit n) = n := by decide

theorem readString_escapeChar (c : Char) (rest : List Char) :
    readString (escapeChar c ++ rest) = (readString rest).map fun (value, rest) => (c :: value, rest) := by
  have hchar : ∀ n, c.toNat = n → c = Char.ofNat n := by
    rintro n rfl
    exact (Char.ofNat_toNat c).symm
  -- The escapes come first in the order in which they are tried; each is read back as its one character.
  unfold escapeChar
  split
  case isTrue h => subst h; simp [readString, unescape?]
  split
  case isTrue h => subst h; simp [readString, unescape?]
  split
  case isTrue h => rw [hchar 8 h]; rfl
  split
  case isTrue h => rw [hchar 9 h]; rfl
  split
  case isTrue h => rw [hchar 10 h]; rfl
  split
  case isTrue h => rw [hchar 12 h]; rfl
  split
  case isTrue h => rw [hchar 13 h]; rfl
  split
  case isTrue h =>
    -- Any other control character is written with two digits, as its code point is below 32.
    have hvalue : 16 * hexValue (hexDigit (c.toNat / 16)) + hexValue (hexDigit (c.toNat % 16)) = c.toNat := by
      rw [hexValue_hexDigit _ (by omega), hexValue_hexDigit _ (by omega)]
      omega
    simp only [List.cons_append, List.nil_append, readString, hvalue, Char.ofNat_toNat]
  case isFalse hquote hbackslash _ _ _ _ _ _ =>
    -- What has no escape is neither a quote nor a backslash, and stands for itself.
    rw [List.singleton_append, readString] <;> simp_all

/-- A quoted text is read as it was. -/
theorem readString_quoted (text rest : List Char) :
    readString (text.flatMap escapeChar ++ '"' :: rest) = some (text, rest) := by
  induction text with
  | nil => simp [readString]
  | cons c text ih =>
    rw [List.flatMap_cons, List.append_assoc, readString_escapeChar, ih]
    rfl

/-! ## Tokens -/

/-- A piece of a JSON text that means something. -/
inductive Token where
  | openArray
  | closeArray
  | openObject
  | closeObject
  | bool (value : Bool)
  | number (value : Nat)
  | string (value : String)

mutual

/-- The tokens of a value. -/
def tokens : Json → List Token
  | .bool value => [.bool value]
  | .number n => [.number n]
  | .string text => [.string text]
  | .array items => .openArray :: (itemTokens items ++ [.closeArray])
  | .object fields => .openObject :: (fieldTokens fields ++ [.closeObject])

/-- The tokens of the items of an array. -/
def itemTokens : List Json → List Token
  | [] => []
  | item :: items => tokens item ++ itemTokens items

/-- The tokens of the fields of an object, each behind its name. -/
def fieldTokens : List (String × Json) → List Token
  | [] => []
  | (name, value) :: fields => .string name :: (tokens value ++ fieldTokens fields)

end

/-- The tokens of a value begin with one that closes nothing. -/
theorem tokens_ne_cons_close (value : Json) {rest more : List Token} :
    tokens value ++ rest ≠ .closeArray :: more ∧ tokens value ++ rest ≠ .closeObject :: more := by
  cases value <;> simp [tokens]

mutual

/-- Two values with the same tokens in front of some others are one. -/
theorem tokens_append_inj (a b : Json) {xs ys : List Token} (h : tokens a ++ xs = tokens b ++ ys) :
    a = b ∧ xs = ys := by
  cases a with
  | bool value => cases b <;> simp_all [tokens]
  | number n => cases b <;> simp_all [tokens]
  | string text => cases b <;> simp_all [tokens]
  | array items =>
    cases b with
    | array others =>
      -- Both are arrays, and each is read up to where it is closed.
      have htail := itemTokens_append_inj items others (by simpa [tokens] using h)
      simpa using htail
    | _ => simp [tokens] at h
  | object fields =>
    cases b with
    | object others =>
      -- Both are objects.
      have htail := fieldTokens_append_inj fields others (by simpa [tokens] using h)
      simpa using htail
    | _ => simp [tokens] at h

/-- Items end where their array is closed. -/
theorem itemTokens_append_inj (items others : List Json) {xs ys : List Token}
    (h : itemTokens items ++ .closeArray :: xs = itemTokens others ++ .closeArray :: ys) :
    items = others ∧ xs = ys := by
  match items, others with
  | [], [] => simpa [itemTokens] using h
  | [], other :: others =>
    rw [itemTokens, itemTokens, List.append_assoc] at h
    -- One array is closed where the other one has an item, and no item begins with a closing bracket.
    exact absurd h.symm (tokens_ne_cons_close other).1
  | item :: items, [] =>
    rw [itemTokens, itemTokens, List.append_assoc] at h
    exact absurd h (tokens_ne_cons_close item).1
  | item :: items, other :: others =>
    rw [itemTokens, itemTokens, List.append_assoc, List.append_assoc] at h
    obtain ⟨rfl, htail⟩ := tokens_append_inj item other h
    obtain ⟨rfl, rfl⟩ := itemTokens_append_inj items others htail
    exact ⟨rfl, rfl⟩

/-- Fields end where their object is closed. -/
theorem fieldTokens_append_inj (fields others : List (String × Json)) {xs ys : List Token}
    (h : fieldTokens fields ++ .closeObject :: xs = fieldTokens others ++ .closeObject :: ys) :
    fields = others ∧ xs = ys := by
  match fields, others with
  | [], [] => simpa [fieldTokens] using h
  | [], (name, value) :: others => simp [fieldTokens] at h
  | (name, value) :: fields, [] => simp [fieldTokens] at h
  | (name, value) :: fields, (other, content) :: others =>
    -- The names are tokens of their own, so they are the same, and then so are the values behind them.
    rw [fieldTokens, fieldTokens, List.cons_append, List.cons_append, List.append_assoc, List.append_assoc,
      List.cons.injEq, Token.string.injEq] at h
    obtain ⟨rfl, htokens⟩ := h
    obtain ⟨rfl, htail⟩ := tokens_append_inj value content htokens
    obtain ⟨rfl, rfl⟩ := fieldTokens_append_inj fields others htail
    exact ⟨rfl, rfl⟩

end

/-! ## Reading tokens -/

/-- A character between tokens. -/
def isMark (c : Char) : Bool := c = ' ' || c = '\n' || c = ',' || c = ':'

/-- Reads the tokens of a text. -/
def readTokens (text : List Char) : Option (List Token) :=
  match text with
  | [] => some []
  | '[' :: rest => (readTokens rest).map (.openArray :: ·)
  | ']' :: rest => (readTokens rest).map (.closeArray :: ·)
  | '\x7b' :: rest => (readTokens rest).map (.openObject :: ·)
  | '\x7d' :: rest => (readTokens rest).map (.closeObject :: ·)
  | 't' :: 'r' :: 'u' :: 'e' :: rest => (readTokens rest).map (.bool true :: ·)
  | 'f' :: 'a' :: 'l' :: 's' :: 'e' :: rest => (readTokens rest).map (.bool false :: ·)
  | '"' :: rest =>
    match _h : readString rest with
    | none => none
    | some (value, rest) => (readTokens rest).map (.string (String.ofList value) :: ·)
  | c :: rest =>
    if isMark c then readTokens rest
    else if c.isDigit then
      (readTokens (rest.dropWhile Char.isDigit)).map
        (.number (Nat.ofDigitChars 10 (c :: rest.takeWhile Char.isDigit) 0) :: ·)
    else none
termination_by text.length
decreasing_by
  all_goals simp only [List.length_cons]
  all_goals try omega
  · have := length_of_readString _h
    omega
  · have := (List.dropWhile_suffix (l := rest) Char.isDigit).length_le
    omega

/-- A text that does not go on with a digit. -/
def NoDigit (text : List Char) : Prop := ∀ c ∈ text.head?, c.isDigit = false

theorem NoDigit.append {xs ys : List Char} (hx : NoDigit xs) (hy : NoDigit ys) : NoDigit (xs ++ ys) := by
  cases xs with
  | nil => exact hy
  | cons c xs => exact hx

theorem NoDigit.takeWhile_eq {text : List Char} (h : NoDigit text) :
    text.takeWhile Char.isDigit = [] ∧ text.dropWhile Char.isDigit = text := by
  cases text with
  | nil => exact ⟨rfl, rfl⟩
  | cons c text => simp [h c rfl]

theorem noDigit_of_marks {text : List Char} (h : ∀ c ∈ text, isMark c = true) : NoDigit text := by
  intro c hc
  have hmark := h c (List.mem_of_mem_head? hc)
  have hcases : c = ' ' ∨ c = '\n' ∨ c = ',' ∨ c = ':' := by simpa [isMark, or_assoc] using hmark
  rcases hcases with rfl | rfl | rfl | rfl <;> rfl

/-- A piece of a text that is read as the given tokens, unless a digit follows. -/
def ReadAs (text : List Char) (tokens : List Token) : Prop :=
  ∀ rest, NoDigit rest → readTokens (text ++ rest) = (readTokens rest).map (tokens ++ ·)

namespace ReadAs

theorem nil : ReadAs [] [] := by
  intro rest _
  simp

theorem append {xs ys : List Char} {ts us : List Token} (hx : ReadAs xs ts) (hy : ReadAs ys us)
    (h : NoDigit ys) : ReadAs (xs ++ ys) (ts ++ us) := by
  intro rest hrest
  rw [List.append_assoc, hx _ (h.append hrest), hy rest hrest, Option.map_map]
  simp [Function.comp_def]

theorem mark {c : Char} (h : isMark c = true) {text : List Char} {tokens : List Token} (htext : ReadAs text tokens) :
    ReadAs (c :: text) tokens := by
  intro rest hrest
  have hcases : c = ' ' ∨ c = '\n' ∨ c = ',' ∨ c = ':' := by simpa [isMark, or_assoc] using h
  rcases hcases with rfl | rfl | rfl | rfl <;> simp [readTokens, isMark, htext rest hrest]

theorem marks {gap : List Char} (h : ∀ c ∈ gap, isMark c = true) {text : List Char} {tokens : List Token}
    (htext : ReadAs text tokens) : ReadAs (gap ++ text) tokens := by
  induction gap with
  | nil => exact htext
  | cons c gap ih =>
    obtain ⟨hc, hgap⟩ := List.forall_mem_cons.mp h
    exact mark hc (ih hgap)

theorem bool (value : Bool) : ReadAs (if value then "true" else "false").toList [.bool value] := by
  intro rest _
  cases value <;> simp [readTokens]

theorem string (text : String) : ReadAs (quote text).toList [.string text] := by
  intro rest _
  have hread : readString (text.toList.flatMap escapeChar ++ '"' :: rest) = some (text.toList, rest) :=
    readString_quoted text.toList rest
  rw [quote, String.toList_ofList, List.cons_append, List.append_assoc, List.singleton_append, readTokens]
  split
  · next h => simp [h] at hread
  · next h =>
    rw [h] at hread
    obtain ⟨rfl, rfl⟩ := Prod.mk.inj (Option.some.inj hread)
    simp

theorem number (n : Nat) : ReadAs (toString n).toList [.number n] := by
  intro rest hrest
  have hdigits : ∀ c ∈ Nat.toDigits 10 n, c.isDigit = true := fun c hc =>
    Nat.isDigit_of_mem_toDigits (by decide) (by decide) hc
  obtain ⟨c, digits, hwritten⟩ := List.exists_cons_of_ne_nil (Nat.toDigits_ne_nil (n := n) (b := 10))
  have hvalue : Nat.ofDigitChars 10 (c :: digits) 0 = n := by
    rw [← hwritten, Nat.ofDigitChars_ten_toDigits]
  rw [hwritten] at hdigits
  obtain ⟨hc, hothers⟩ := List.forall_mem_cons.mp hdigits
  obtain ⟨htake, hdrop⟩ := hrest.takeWhile_eq
  rw [Nat.toString_eq_repr, Nat.toList_repr, hwritten, List.cons_append]
  -- A digit is none of the characters by which other tokens begin.
  have hother : ∀ d : Char, d.isDigit = false → c ≠ d := by
    rintro d hd rfl
    simp [hc] at hd
  have hmark : isMark c = false := by simp [isMark, hother]
  rw [readTokens, if_neg (by simp [hmark]), if_pos hc, List.takeWhile_append_of_pos hothers,
    List.dropWhile_append_of_pos hothers, htake, hdrop, List.append_nil, hvalue]
  · rfl
  all_goals (intros; simp_all)

end ReadAs

/-! ## Layouts -/

/-- What is written between tokens apart from commas and colons: a gap in front of each item and of each closing bracket,
by its level, and a space behind the name of a field. -/
structure Layout where
  gap : Nat → List Char
  space : List Char
  marks_gap : ∀ level, ∀ c ∈ gap level, isMark c = true
  marks_space : ∀ c ∈ space, isMark c = true

namespace Layout

/-- The layout without blanks. -/
def compact : Layout := ⟨fun _ => [], [], by simp, by simp⟩

/-- The layout over indented lines. -/
def indented : Layout :=
  ⟨fun level => '\n' :: List.replicate (2 * level) ' ', [' '], by simp [isMark], by simp [isMark]⟩

mutual

/-- A value in a layout. -/
def write (layout : Layout) (level : Nat) : Json → List Char
  | .bool value => (if value then "true" else "false").toList
  | .number n => (toString n).toList
  | .string text => (quote text).toList
  | .array [] => ['[', ']']
  | .array (item :: items) =>
    '[' :: (layout.gap (level + 1) ++ (layout.write (level + 1) item ++
      (layout.writeItems (level + 1) items ++ (layout.gap level ++ [']']))))
  | .object [] => ['\x7b', '\x7d']
  | .object (field :: fields) =>
    '\x7b' :: (layout.gap (level + 1) ++ (layout.writeField (level + 1) field ++
      (layout.writeFields (level + 1) fields ++ (layout.gap level ++ ['\x7d']))))

/-- The further items of an array. -/
def writeItems (layout : Layout) (level : Nat) : List Json → List Char
  | [] => []
  | item :: items =>
    ',' :: (layout.gap level ++ (layout.write level item ++ layout.writeItems level items))

/-- A field with its name. -/
def writeField (layout : Layout) (level : Nat) : String × Json → List Char
  | (name, value) => (quote name).toList ++ ':' :: (layout.space ++ layout.write level value)

/-- The further fields of an object. -/
def writeFields (layout : Layout) (level : Nat) : List (String × Json) → List Char
  | [] => []
  | field :: fields =>
    ',' :: (layout.gap level ++ (layout.writeField level field ++ layout.writeFields level fields))

end

mutual

theorem toList_compact (level : Nat) (value : Json) : value.compact.toList = compact.write level value := by
  match value with
  | .bool true => rfl
  | .bool false => rfl
  | .number n => simp only [Json.compact, write]
  | .string text => simp only [Json.compact, write]
  | .array [] => rfl
  | .array (item :: items) =>
    simp [Json.compact, write, compact, toList_compact (level + 1) item, toList_compactItems (level + 1) items]
  | .object [] => rfl
  | .object (field :: fields) =>
    simp [Json.compact, write, compact, toList_compactField (level + 1) field,
      toList_compactFields (level + 1) fields]

theorem toList_compactItems (level : Nat) (items : List Json) :
    (compactItems items).toList = compact.writeItems level items := by
  match items with
  | [] => simp [compactItems, writeItems]
  | item :: items =>
    simp [compactItems, writeItems, compact, toList_compact level item, toList_compactItems level items]

theorem toList_compactField (level : Nat) (field : String × Json) :
    (compactField field).toList = compact.writeField level field := by
  match field with
  | (name, value) => simp [compactField, writeField, compact, toList_compact level value]

theorem toList_compactFields (level : Nat) (fields : List (String × Json)) :
    (compactFields fields).toList = compact.writeFields level fields := by
  match fields with
  | [] => simp [compactFields, writeFields]
  | field :: fields =>
    simp [compactFields, writeFields, compact, toList_compactField level field, toList_compactFields level fields]

end

mutual

theorem toList_pretty (level : Nat) (value : Json) :
    (value.pretty level).toList = indented.write level value := by
  match value with
  | .bool true => rfl
  | .bool false => rfl
  | .number n => simp only [pretty, write]
  | .string text => simp only [pretty, write]
  | .array [] => simp [pretty, write]
  | .array (item :: items) =>
    simp [pretty, write, indented, newLine, toList_pretty (level + 1) item, toList_prettyItems (level + 1) items]
  | .object [] => simp [pretty, write]
  | .object (field :: fields) =>
    simp [pretty, write, indented, newLine, toList_prettyField (level + 1) field,
      toList_prettyFields (level + 1) fields]

theorem toList_prettyItems (level : Nat) (items : List Json) :
    (prettyItems level items).toList = indented.writeItems level items := by
  match items with
  | [] => simp [prettyItems, writeItems]
  | item :: items =>
    simp [prettyItems, writeItems, indented, newLine, toList_pretty level item, toList_prettyItems level items]

theorem toList_prettyField (level : Nat) (field : String × Json) :
    (prettyField level field).toList = indented.writeField level field := by
  match field with
  | (name, value) => simp [prettyField, writeField, indented, toList_pretty level value]

theorem toList_prettyFields (level : Nat) (fields : List (String × Json)) :
    (prettyFields level fields).toList = indented.writeFields level fields := by
  match fields with
  | [] => simp [prettyFields, writeFields]
  | field :: fields =>
    simp [prettyFields, writeFields, indented, newLine, toList_prettyField level field,
      toList_prettyFields level fields]

end

/-! ## Reading a layout -/

variable (layout : Layout)

theorem noDigit_writeItems (level : Nat) (items : List Json) : NoDigit (layout.writeItems level items) := by
  cases items <;> simp [writeItems, NoDigit]

theorem noDigit_writeFields (level : Nat) (fields : List (String × Json)) :
    NoDigit (layout.writeFields level fields) := by
  cases fields <;> simp [writeFields, NoDigit]

/-- A gap and a bracket. -/
theorem noDigit_gap (level : Nat) (closing : Char) (h : closing.isDigit = false) :
    NoDigit (layout.gap level ++ [closing]) := by
  apply (noDigit_of_marks (layout.marks_gap level)).append
  simpa [NoDigit] using h

theorem readAs_closeArray (level : Nat) : ReadAs (layout.gap level ++ [']']) [.closeArray] := by
  apply ReadAs.marks (layout.marks_gap level)
  intro rest _
  simp [readTokens]

theorem readAs_closeObject (level : Nat) : ReadAs (layout.gap level ++ ['\x7d']) [.closeObject] := by
  apply ReadAs.marks (layout.marks_gap level)
  intro rest _
  simp [readTokens]

theorem readAs_openArray {text : List Char} {tokens : List Token} (h : ReadAs text tokens) :
    ReadAs ('[' :: text) (.openArray :: tokens) := by
  intro rest hrest
  simp [readTokens, h rest hrest, Function.comp_def]

theorem readAs_openObject {text : List Char} {tokens : List Token} (h : ReadAs text tokens) :
    ReadAs ('\x7b' :: text) (.openObject :: tokens) := by
  intro rest hrest
  simp [readTokens, h rest hrest, Function.comp_def]

mutual

/-- The tokens of a value are read from any layout. -/
theorem readAs_write (level : Nat) (value : Json) : ReadAs (layout.write level value) (tokens value) := by
  match value with
  | .bool value => simpa only [write, tokens] using ReadAs.bool value
  | .number n => simpa only [write, tokens] using ReadAs.number n
  | .string text => simpa only [write, tokens] using ReadAs.string text
  -- Brackets with nothing between them have no layout to be passed over.
  | .array [] =>
    intro rest _
    simp [write, tokens, itemTokens, readTokens, Function.comp_def]
  | .array (item :: items) =>
    -- The tokens of the items and of the bracket behind them, each part from its own layout; no digit follows a number.
    have hclose := layout.readAs_closeArray level
    have htail := (readAs_writeItems (level + 1) items).append hclose (layout.noDigit_gap level _ rfl)
    have hdigit := (layout.noDigit_writeItems (level + 1) items).append (layout.noDigit_gap level ']' rfl)
    have hall := (readAs_write (level + 1) item).append htail hdigit
    rw [write, tokens, itemTokens, List.append_assoc]
    exact readAs_openArray (hall.marks (layout.marks_gap (level + 1)))
  | .object [] =>
    intro rest _
    simp [write, tokens, fieldTokens, readTokens, Function.comp_def]
  | .object ((name, value) :: fields) =>
    -- As for an array, with the fields in the place of the items.
    have hclose := layout.readAs_closeObject level
    have htail := (readAs_writeFields (level + 1) fields).append hclose (layout.noDigit_gap level _ rfl)
    have hdigit := (layout.noDigit_writeFields (level + 1) fields).append
      (layout.noDigit_gap level '\x7d' rfl)
    have hall := (readAs_writeField (level + 1) name value).append htail hdigit
    rw [write, tokens, fieldTokens, List.cons_append, List.append_assoc]
    exact readAs_openObject (hall.marks (layout.marks_gap (level + 1)))

theorem readAs_writeItems (level : Nat) (items : List Json) :
    ReadAs (layout.writeItems level items) (itemTokens items) := by
  match items with
  | [] => simpa only [writeItems, itemTokens] using ReadAs.nil
  | item :: items =>
    have hall := (readAs_write level item).append (readAs_writeItems level items)
      (layout.noDigit_writeItems level items)
    rw [writeItems, itemTokens]
    exact (hall.marks (layout.marks_gap level)).mark rfl

theorem readAs_writeField (level : Nat) (name : String) (value : Json) :
    ReadAs (layout.writeField level (name, value)) (.string name :: tokens value) := by
  have hvalue : ReadAs (':' :: (layout.space ++ layout.write level value)) (tokens value) :=
    ((readAs_write level value).marks layout.marks_space).mark rfl
  rw [writeField]
  exact (ReadAs.string name).append hvalue (by simp [NoDigit])

theorem readAs_writeFields (level : Nat) (fields : List (String × Json)) :
    ReadAs (layout.writeFields level fields) (fieldTokens fields) := by
  match fields with
  | [] => simpa only [writeFields, fieldTokens] using ReadAs.nil
  | (name, value) :: fields =>
    have hall := (readAs_writeField level name value).append (readAs_writeFields level fields)
      (layout.noDigit_writeFields level fields)
    rw [writeFields, fieldTokens]
    exact (hall.marks (layout.marks_gap level)).mark rfl

end

/-- Values that are written alike are equal. -/
theorem write_inj (level : Nat) {a b : Json} (h : layout.write level a = layout.write level b) : a = b := by
  have ha := layout.readAs_write level a [] (by simp [NoDigit])
  have hb := layout.readAs_write level b [] (by simp [NoDigit])
  rw [h, hb] at ha
  have htokens : tokens a = tokens b := by simpa [readTokens] using ha.symm
  exact (tokens_append_inj a b (congrArg (· ++ []) htokens)).1

end Layout

theorem compact_inj {a b : Json} (h : a.compact = b.compact) : a = b := by
  apply Layout.compact.write_inj 0
  rw [← Layout.toList_compact, ← Layout.toList_compact, h]

theorem pretty_inj {level : Nat} {a b : Json} (h : a.pretty level = b.pretty level) : a = b := by
  apply Layout.indented.write_inj level
  rw [← Layout.toList_pretty, ← Layout.toList_pretty, h]

end Json

end Highlighter
