import Highlighter.Html.Escape
import Mathlib.Data.List.Infix

/-!
# Well-formed HTML

A grammar of outputs: texts, tags that open and close in pairs, and void tags that stand alone. The names of tags and
attributes are known ones, attribute values stand in double quotes, and what is not markup is escaped.

Main statement: where a text is written by this grammar, its characters leave no doubt about it. Each angle bracket is
the first or the last character of one of the tags, and each ampersand begins an entity.
-/

namespace Highlighter.Html

/-! ## Escaped text -/

/-- What an ampersand may begin. -/
def entities : List String := ["&amp;", "&lt;", "&gt;", "&quot;"]

/-- Each ampersand of a text begins an entity. -/
def EntitiesOnly (text : List Char) : Prop :=
  ∀ before after, text = before ++ '&' :: after → ∃ entity ∈ entities, entity.toList <+: '&' :: after

/-- A text that neither opens nor closes a tag, and has no ampersand but those of entities. -/
structure Escaped (text : List Char) : Prop where
  opening : '<' ∉ text
  closing : '>' ∉ text
  entities : EntitiesOnly text

/-- Whether a character may stand for itself. -/
def isPlain (c : Char) : Bool := c != '<' && c != '>' && c != '&'

theorem isPlain_iff {c : Char} : isPlain c = true ↔ c ≠ '<' ∧ c ≠ '>' ∧ c ≠ '&' := by
  simp [isPlain, and_assoc]

theorem entitiesOnly_of_not_mem {text : List Char} (h : '&' ∉ text) : EntitiesOnly text := by
  rintro before after rfl
  simp at h

theorem EntitiesOnly.append {xs ys : List Char} (hx : EntitiesOnly xs) (hy : EntitiesOnly ys) :
    EntitiesOnly (xs ++ ys) := by
  intro before after heq
  rcases List.append_eq_append_iff.mp heq with ⟨rest, -, hrest⟩ | ⟨rest, hfront, hrest⟩
  · exact hy rest after hrest
  · cases rest with
    | nil => exact hy [] after (by simpa using hrest.symm)
    | cons c rest =>
      -- The ampersand is in the first text, and so is the entity that it begins.
      obtain ⟨rfl, rfl⟩ := List.cons.inj hrest
      obtain ⟨entity, hentity, hprefix⟩ := hx before rest hfront
      exact ⟨entity, hentity, hprefix.trans (List.prefix_append _ ys)⟩

namespace Escaped

theorem nil : Escaped [] := ⟨by simp, by simp, entitiesOnly_of_not_mem (by simp)⟩

theorem append {xs ys : List Char} (hx : Escaped xs) (hy : Escaped ys) : Escaped (xs ++ ys) := by
  refine ⟨?_, ?_, hx.entities.append hy.entities⟩
  · simp [hx.opening, hy.opening]
  · simp [hx.closing, hy.closing]

theorem flatMap {α : Type} {items : List α} {form : α → List Char} (h : ∀ item ∈ items, Escaped (form item)) :
    Escaped (items.flatMap form) := by
  induction items with
  | nil => exact nil
  | cons item items ih =>
    obtain ⟨hitem, hothers⟩ := List.forall_mem_cons.mp h
    rw [List.flatMap_cons]
    exact hitem.append (ih hothers)

/-- A text in which nothing has to be escaped. -/
theorem of_plain {text : List Char} (h : text.all isPlain = true) : Escaped text := by
  have hplain : ∀ c ∈ text, isPlain c = true := List.all_eq_true.mp h
  refine ⟨?_, ?_, entitiesOnly_of_not_mem ?_⟩ <;>
    (intro hmem; simpa [isPlain] using hplain _ hmem)

theorem of_entity {name : List Char} (hentity : String.ofList ('&' :: name) ∈ Html.entities)
    (hname : name.all isPlain = true) : Escaped ('&' :: name) := by
  have hplain := of_plain hname
  refine ⟨by simp [hplain.opening], by simp [hplain.closing], ?_⟩
  intro before after heq
  cases before with
  | nil =>
    rw [List.nil_append] at heq
    refine ⟨_, hentity, ?_⟩
    rw [String.toList_ofList, heq]
  | cons c before =>
    -- Behind the first character there is no ampersand.
    obtain ⟨-, hrest⟩ := List.cons.inj heq
    exact hplain.entities before after hrest

end Escaped

theorem escaped_escapeTextChar (c : Char) : Escaped (escapeTextChar c) := by
  unfold escapeTextChar
  split
  case h_1 => exact .of_entity (by decide) (by decide)
  case h_2 => exact .of_entity (by decide) (by decide)
  case h_3 => exact .of_entity (by decide) (by decide)
  case h_4 hamp hopen hclose =>
    apply Escaped.of_plain
    rw [List.all_cons, List.all_nil, Bool.and_true, isPlain_iff]
    exact ⟨hopen, hclose, hamp⟩

theorem escaped_escapeText (text : String) : Escaped (escapeText text).toList := by
  rw [escapeText, String.toList_ofList]
  exact .flatMap fun c _ => escaped_escapeTextChar c

/-- A value that may stand between double quotes. -/
def Quotable (value : List Char) : Prop := Escaped value ∧ '"' ∉ value

theorem quotable_escapeAttribute (text : String) : Quotable (escapeAttribute text).toList := by
  rw [escapeAttribute, String.toList_ofList]
  constructor
  · refine .flatMap fun c _ => ?_
    unfold escapeAttributeChar
    split
    case h_1 => exact .of_entity (by decide) (by decide)
    case h_2 => exact escaped_escapeTextChar c
  · rw [List.mem_flatMap]
    rintro ⟨c, -, hquote⟩
    unfold escapeAttributeChar at hquote
    split at hquote
    -- A quote is written as an entity, which has no quote in it.
    case h_1 => simp at hquote
    case h_2 hother =>
      -- The escaped form of any other character has no quote either.
      unfold escapeTextChar at hquote
      split at hquote
      case h_4 => exact hother (List.mem_singleton.mp hquote).symm
      all_goals simp at hquote

/-! ## Tags -/

/-- The names of the tags that open and close. -/
def pairNames : List String :=
  ["p", "h1", "h2", "h3", "h4", "h5", "h6", "blockquote", "ol", "ul", "li", "em", "strong", "del", "code", "pre",
    "a", "table", "tr", "th", "td", "sup", "div", "span"]

/-- The names of the tags that stand alone. -/
def voidNames : List String := ["hr", "br", "img", "input"]

/-- The names of attributes. -/
def attributeNames : List String :=
  ["style", "class", "start", "type", "disabled", "checked", "href", "title", "src", "alt", "id"]

/-- An attribute of a tag, with or without a value. -/
abbrev Field := String × Option String

namespace Field

/-- An attribute as it is written. -/
def text : Field → String
  | (name, none) => " " ++ name
  | (name, some value) => " " ++ name ++ "=\"" ++ value ++ "\""

/-- The name is known, and the value may stand between double quotes. -/
def Proper (field : Field) : Prop :=
  field.1 ∈ attributeNames ∧ ∀ value ∈ field.2, Quotable value.toList

end Field

/-- What stands between the angle brackets of a tag. -/
structure Tag where
  name : String
  fields : List Field

/-- The name and the attributes as they are written. -/
def Tag.text (tag : Tag) : String := tag.name ++ String.join (tag.fields.map Field.text)

theorem plain_of_known {name : String} (h : name ∈ pairNames ∨ name ∈ voidNames ∨ name ∈ attributeNames) :
    name.toList.all isPlain = true := by
  have hall : (pairNames ++ (voidNames ++ attributeNames)).all (·.toList.all isPlain) = true := by decide
  apply List.all_eq_true.mp hall
  simpa using h

theorem Field.Proper.flag {name : String} (h : name ∈ attributeNames) : Field.Proper (name, none) :=
  ⟨h, by simp⟩

theorem Field.Proper.quoted {name value : String} (h : name ∈ attributeNames) (hvalue : Quotable value.toList) :
    Field.Proper (name, some value) :=
  ⟨h, by simpa using hvalue⟩

theorem Field.Proper.escaped_text {field : Field} (h : field.Proper) : Escaped field.text.toList := by
  obtain ⟨hname, hvalue⟩ := h
  have hplain := Escaped.of_plain (plain_of_known (.inr (.inr hname)))
  have hspace : Escaped [' '] := .of_plain (by decide)
  obtain ⟨name, _ | value⟩ := field
  · simpa [text] using hspace.append hplain
  · have hquoted : Escaped (['=', '"'] ++ (value.toList ++ ['"'])) := by
      apply Escaped.append
      · exact .of_plain (by decide)
      · exact (hvalue value rfl).1.append (.of_plain (by decide))
    simpa [text] using (hspace.append hplain).append hquoted

theorem Tag.escaped_text {tag : Tag} (hname : tag.name ∈ pairNames ∨ tag.name ∈ voidNames)
    (hfields : ∀ field ∈ tag.fields, field.Proper) : Escaped tag.text.toList := by
  rw [text, String.toList_append, String.toList_join, List.flatMap_map]
  apply Escaped.append
  · rcases hname with hpair | hvoid
    · exact .of_plain (plain_of_known (.inl hpair))
    · exact .of_plain (plain_of_known (.inr (.inl hvoid)))
  · exact .flatMap fun field hfield => (hfields field hfield).escaped_text

/-! ## Tokens -/

/-- A piece of HTML that cannot be divided. -/
inductive Token where
  | text (content : String)
  | opening (tag : Tag)
  | closing (name : String)
  /-- A tag that stands alone. -/
  | void (tag : Tag)

namespace Token

/-- A token as it is written. -/
def written : Token → String
  | text content => content
  | opening tag => "<" ++ tag.text ++ ">"
  | closing name => "</" ++ name ++ ">"
  | void tag => "<" ++ tag.text ++ " />"

/-- Whether a token is a tag. -/
def isTag : Token → Bool
  | text _ => false
  | _ => true

/-- A text is escaped, and a tag has a known name and proper attributes. -/
def Proper : Token → Prop
  | text content => Escaped content.toList
  | opening tag => tag.name ∈ pairNames ∧ ∀ field ∈ tag.fields, field.Proper
  | closing name => name ∈ pairNames
  | void tag => tag.name ∈ voidNames ∧ ∀ field ∈ tag.fields, field.Proper

/-- What a proper token is written as: an escaped text, with angle brackets around it if it is a tag. -/
theorem Proper.written_cases {token : Token} (h : token.Proper) :
    token.isTag = false ∧ Escaped token.written.toList ∨
      token.isTag = true ∧ ∃ inner, Escaped inner ∧ token.written.toList = '<' :: (inner ++ ['>']) := by
  cases token with
  | text content => exact .inl ⟨rfl, h⟩
  | opening tag =>
    refine .inr ⟨rfl, tag.text.toList, Tag.escaped_text (.inl h.1) h.2, ?_⟩
    simp [written]
  | closing name =>
    -- A slash is no bracket and begins no entity, so the name may follow it.
    have hslash : Escaped ['/'] := .of_plain (by decide)
    refine .inr ⟨rfl, ['/'] ++ name.toList, hslash.append (.of_plain (plain_of_known (.inl h))), ?_⟩
    simp [written]
  | void tag =>
    have hslash : Escaped [' ', '/'] := .of_plain (by decide)
    refine .inr ⟨rfl, tag.text.toList ++ [' ', '/'], (Tag.escaped_text (.inr h.1) h.2).append hslash, ?_⟩
    simp [written]

/-- A proper token has an opening bracket only if it is a tag, and only in front. -/
theorem Proper.eq_nil_of_opening {token : Token} (h : token.Proper) {front back : List Char}
    (heq : token.written.toList = front ++ '<' :: back) : token.isTag = true ∧ front = [] := by
  -- A text is escaped, so it has no opening bracket, and a tag has one in front only.
  rcases h.written_cases with ⟨-, hescaped⟩ | ⟨htag, inner, hinner, hwritten⟩
  · have hnone := hescaped.opening
    simp [heq] at hnone
  · refine ⟨htag, ?_⟩
    rw [hwritten] at heq
    cases front with
    | nil => rfl
    | cons c front =>
      have hnone : '<' ∉ inner ++ ['>'] := by simp [hinner.opening]
      simp [(List.cons.inj heq).2] at hnone

/-- A proper token has a closing bracket only if it is a tag, and only at the end. -/
theorem Proper.eq_nil_of_closing {token : Token} (h : token.Proper) {front back : List Char}
    (heq : token.written.toList = front ++ '>' :: back) : token.isTag = true ∧ back = [] := by
  rcases h.written_cases with ⟨-, hescaped⟩ | ⟨htag, inner, hinner, hwritten⟩
  · have hnone := hescaped.closing
    simp [heq] at hnone
  · refine ⟨htag, ?_⟩
    rw [hwritten, ← List.cons_append] at heq
    -- The bracket is the last character, since no other character of a tag is one.
    rcases List.append_eq_append_iff.mp heq with ⟨rest, -, hrest⟩ | ⟨rest, hfront, hrest⟩
    · cases rest with
      | nil => simpa using hrest.symm
      | cons c rest => simp at hrest
    · cases rest with
      | nil => simpa using hrest
      | cons c rest =>
        obtain ⟨rfl, -⟩ := List.cons.inj hrest
        have hnone : '>' ∉ '<' :: inner := by simp [hinner.closing]
        simp [hfront] at hnone

theorem Proper.entitiesOnly {token : Token} (h : token.Proper) : EntitiesOnly token.written.toList := by
  rcases h.written_cases with ⟨-, hescaped⟩ | ⟨-, inner, hinner, hwritten⟩
  · exact hescaped.entities
  · have hopen : EntitiesOnly ['<'] := entitiesOnly_of_not_mem (by decide)
    have hclose : EntitiesOnly ['>'] := entitiesOnly_of_not_mem (by decide)
    rw [hwritten]
    exact hopen.append (hinner.entities.append hclose)

end Token

/-- Tokens as they are written, one after another. -/
def write (tokens : List Token) : String := String.join (tokens.map Token.written)

@[simp] theorem write_nil : write [] = "" := rfl

@[simp] theorem write_cons (token : Token) (tokens : List Token) :
    write (token :: tokens) = token.written ++ write tokens := by
  rw [write, List.map_cons, String.join_cons, write]

@[simp] theorem write_append (xs ys : List Token) : write (xs ++ ys) = write xs ++ write ys := by
  induction xs with
  | nil => simp
  | cons x xs ih => simp [ih, String.append_assoc]

/-- A character of what is written is a character of one of the tokens. -/
theorem exists_token_of_write {tokens : List Token} {before after : List Char} {c : Char}
    (h : (write tokens).toList = before ++ c :: after) :
    ∃ earlier token later front back, tokens = earlier ++ token :: later ∧
      token.written.toList = front ++ c :: back ∧ before = (write earlier).toList ++ front ∧
      after = back ++ (write later).toList := by
  induction tokens generalizing before with
  | nil => simp at h
  | cons token tokens ih =>
    rw [write_cons, String.toList_append] at h
    have hrest : ∀ rest, before = token.written.toList ++ rest →
        (write tokens).toList = rest ++ c :: after →
        ∃ earlier other later front back, token :: tokens = earlier ++ other :: later ∧
          other.written.toList = front ++ c :: back ∧ before = (write earlier).toList ++ front ∧
          after = back ++ (write later).toList := by
      intro rest hbefore hrest
      obtain ⟨earlier, other, later, front, back, rfl, hwritten, rfl, hafter⟩ := ih hrest
      refine ⟨token :: earlier, other, later, front, back, rfl, hwritten, ?_, hafter⟩
      simp [hbefore]
    -- The character is behind the first token or in it.
    rcases List.append_eq_append_iff.mp h with ⟨rest, hbefore, hwritten⟩ | ⟨rest, hwritten, hafter⟩
    · exact hrest rest hbefore hwritten
    · cases rest with
      | nil =>
        -- The first token ends in front of it.
        apply hrest []
        · simpa using hwritten.symm
        · simpa using hafter.symm
      | cons d rest =>
        obtain ⟨rfl, rfl⟩ := List.cons.inj hafter
        exact ⟨[], token, tokens, before, rest, rfl, hwritten, rfl, rfl⟩

/-! ## Nesting -/

/-- Tokens in which each tag that opens is closed by its name, and what is between them is nested too. -/
inductive Nested : List Token → Prop where
  | nil : Nested []
  | text (content : String) : Nested [.text content]
  | void (tag : Tag) : Nested [.void tag]
  | pair (tag : Tag) {inner : List Token} : Nested inner → Nested (.opening tag :: inner ++ [.closing tag.name])
  | append {xs ys : List Token} : Nested xs → Nested ys → Nested (xs ++ ys)

/-- An output that is written by proper and nested tokens, in the terms of its characters as well. -/
structure Markup (output : String) (tokens : List Token) : Prop where
  written : write tokens = output
  nested : Nested tokens
  proper : ∀ token ∈ tokens, token.Proper
  /-- Each opening bracket is where one of the tags begins. -/
  opening : ∀ before after, output.toList = before ++ '<' :: after →
    ∃ earlier token later, tokens = earlier ++ token :: later ∧ token.isTag = true ∧
      before = (write earlier).toList
  /-- Each closing bracket is where one of the tags ends. -/
  closing : ∀ before after, output.toList = before ++ '>' :: after →
    ∃ earlier token later, tokens = earlier ++ token :: later ∧ token.isTag = true ∧
      after = (write later).toList
  entities : EntitiesOnly output.toList

theorem entitiesOnly_write {tokens : List Token} (h : ∀ token ∈ tokens, token.Proper) :
    EntitiesOnly (write tokens).toList := by
  induction tokens with
  | nil => exact entitiesOnly_of_not_mem (by simp)
  | cons token tokens ih =>
    obtain ⟨htoken, hothers⟩ := List.forall_mem_cons.mp h
    rw [write_cons, String.toList_append]
    exact htoken.entitiesOnly.append (ih hothers)

/-- The characters of nested and proper tokens show where the tags are. -/
theorem markup_write {tokens : List Token} (hnested : Nested tokens) (hproper : ∀ token ∈ tokens, token.Proper) :
    Markup (write tokens) tokens where
  written := rfl
  nested := hnested
  proper := hproper
  opening before after h := by
    -- An opening bracket stands in some token, and only at the front of a tag.
    obtain ⟨earlier, token, later, front, back, rfl, hwritten, rfl, -⟩ := exists_token_of_write h
    obtain ⟨htag, rfl⟩ := (hproper token (by simp)).eq_nil_of_opening hwritten
    exact ⟨earlier, token, later, rfl, htag, List.append_nil _⟩
  closing before after h := by
    -- A closing bracket is at the end of its tag for the same reason.
    obtain ⟨earlier, token, later, front, back, rfl, hwritten, -, rfl⟩ := exists_token_of_write h
    obtain ⟨htag, rfl⟩ := (hproper token (by simp)).eq_nil_of_closing hwritten
    exact ⟨earlier, token, later, rfl, htag, List.nil_append _⟩
  entities := entitiesOnly_write hproper

/-! ## Putting outputs together -/

/-- An output that some nested and proper tokens write. -/
def WellFormed (output : String) : Prop :=
  ∃ tokens, write tokens = output ∧ Nested tokens ∧ ∀ token ∈ tokens, token.Proper

namespace WellFormed

theorem empty : WellFormed "" := ⟨[], rfl, .nil, by simp⟩

theorem append {s t : String} (hs : WellFormed s) (ht : WellFormed t) : WellFormed (s ++ t) := by
  obtain ⟨xs, rfl, hxs, hproper⟩ := hs
  obtain ⟨ys, rfl, hys, hothers⟩ := ht
  exact ⟨xs ++ ys, write_append xs ys, hxs.append hys, List.forall_mem_append.mpr ⟨hproper, hothers⟩⟩

theorem text {content : String} (h : Escaped content.toList) : WellFormed content :=
  ⟨[.text content], by simp [Token.written], .text content, List.forall_mem_singleton.mpr h⟩

theorem void (name : String) {fields : List Field} (hname : name ∈ voidNames)
    (hfields : ∀ field ∈ fields, field.Proper) : WellFormed (Token.void ⟨name, fields⟩).written :=
  ⟨[.void ⟨name, fields⟩], by simp, .void _, List.forall_mem_singleton.mpr ⟨hname, hfields⟩⟩

theorem pair (name : String) {fields : List Field} (hname : name ∈ pairNames)
    (hfields : ∀ field ∈ fields, field.Proper) {inner : String} (hinner : WellFormed inner) :
    WellFormed ((Token.opening ⟨name, fields⟩).written ++ inner ++ (Token.closing name).written) := by
  obtain ⟨tokens, rfl, hnested, htokens⟩ := hinner
  refine ⟨.opening ⟨name, fields⟩ :: tokens ++ [.closing name], ?_, .pair ⟨name, fields⟩ hnested, ?_⟩
  · simp [String.append_assoc]
  · simp only [List.cons_append, List.forall_mem_cons, List.forall_mem_append]
    exact ⟨⟨hname, hfields⟩, htokens, hname, by simp⟩

end WellFormed

end Highlighter.Html
