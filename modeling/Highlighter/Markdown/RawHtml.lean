import Highlighter.Markdown.Cursor

/-!
# Raw HTML

Tags, comments, declarations and instructions that stand in a Markdown text, and the ways in which a line
begins a block of HTML.

A tag inside a text may run over several lines. What the containers claim of these lines is no part of the tag,
so a reader of tags tells which pieces of the source to leave out.
-/

namespace Highlighter.Markdown

/-- How far a tag has been read, and the pieces to leave out of it, the last one first. -/
structure TagScan where
  index : Nat
  gaps : List (Nat × Nat)

/-- A tag may run over several lines, or has to end on its line. -/
inductive TagLines where
  | several
  | one
deriving DecidableEq

namespace Setting

/-- Passes over a line end inside a tag and over what the containers claim of the next line. -/
def tagLineEnd? (setting : Setting) (lines : TagLines) (scan : TagScan) (after : Nat) :
    Option TagScan :=
  match lines with
  | .one => none
  | .several =>
    let next := max after (setting.skipClaims after)
    some ⟨next, if after < next then (after, next) :: scan.gaps else scan.gaps⟩

/-- Passes over white space in a tag. -/
def tagSpace? (setting : Setting) (lines : TagLines) (scan : TagScan) : Option TagScan :=
  if h : scan.index < setting.source.chars.size then
    if isSpace setting.source.chars[scan.index] then
      match setting.source.lineEnd? scan.index with
      | none => tagSpace? setting lines { scan with index := scan.index + 1 }
      | some after =>
        match setting.tagLineEnd? lines scan after with
        | none => none
        | some next =>
          if scan.index < next.index then tagSpace? setting lines next else some scan
    else some scan
  else some scan
termination_by setting.source.chars.size - scan.index

/-- Passes over a quoted attribute value, up to and with the closing quote. -/
def quotedValue? (setting : Setting) (lines : TagLines) (quote : Char) (scan : TagScan) :
    Option TagScan :=
  if h : scan.index < setting.source.chars.size then
    if setting.source.chars[scan.index] = quote then some { scan with index := scan.index + 1 }
    else
      match setting.source.lineEnd? scan.index with
      | none => quotedValue? setting lines quote { scan with index := scan.index + 1 }
      | some after =>
        match setting.tagLineEnd? lines scan after with
        | none => none
        | some next =>
          if scan.index < next.index then quotedValue? setting lines quote next else none
  else none
termination_by setting.source.chars.size - scan.index

/-- A character of an attribute value without quotes. -/
def isBareValueChar (c : Char) : Bool :=
  !(c == '\'' || c == '"' || c == ' ' || c == '=' || c == '>' || c == '<' || c == '\x60' ||
    c == '\n' || c == '\r')

/-- Passes over an attribute value. -/
def attributeValue? (setting : Setting) (lines : TagLines) (scan : TagScan) : Option TagScan :=
  match setting.source.at? scan.index with
  | none => none
  | some c =>
    if c = '"' ∨ c = '\'' then
      setting.quotedValue? lines c { scan with index := scan.index + 1 }
    else if c = ' ' ∨ c = '=' ∨ c = '>' ∨ c = '<' ∨ c = '\x60' ∨ c = '\t' ∨ c = '\n' ∨ c = '\r' then
      none
    else some { scan with index := setting.source.skipWhile isBareValueChar scan.index }

/-- A character of an attribute name, behind its first. -/
def isAttributeNameChar (c : Char) : Bool :=
  c.isAlphanum || c == '_' || c == '.' || c == ':' || c == '-'

/-- Passes over an attribute: a name, and a value if an equals sign follows. -/
def attribute? (setting : Setting) (lines : TagLines) (scan : TagScan) : Option TagScan :=
  if setting.source.isAt scan.index (fun c => c.isAlpha || c == '_' || c == ':') then
    let named := { scan with
      index := setting.source.skipWhile isAttributeNameChar (scan.index + 1) }
    match setting.tagSpace? lines named with
    | none => none
    | some next =>
      if setting.source.hasAt next.index '=' then
        (setting.tagSpace? lines { next with index := next.index + 1 }).bind
          (setting.attributeValue? lines)
      else some named
  else none

/-- Passes over attributes, each behind white space, up to the end of an opening tag. -/
def attributes? (setting : Setting) (lines : TagLines) (scan : TagScan) : Option TagScan :=
  match setting.tagSpace? lines scan with
  | none => none
  | some next =>
    if setting.source.isAt next.index (fun c => c == '/' || c == '>') then some next
    else if next.index = scan.index then none
    else
      match setting.attribute? lines next with
      | none => none
      | some after =>
        if _ : scan.index < after.index ∧ scan.index < setting.source.size then
          attributes? setting lines after
        else none
termination_by setting.source.size - scan.index

/-- Reads an opening or closing tag at an angle bracket. -/
def tag? (setting : Setting) (lines : TagLines) (index : Nat) : Option TagScan :=
  let source := setting.source
  let closing := source.hasAt (index + 1) '/'
  let start := if closing then index + 2 else index + 1
  let letters := source.skipWhile Char.isAlpha start
  if letters = start then none
  else
    let named := ⟨source.skipWhile (fun c => c.isAlphanum || c == '-') letters, []⟩
    let inner := if closing then setting.tagSpace? lines named else setting.attributes? lines named
    match inner with
    | none => none
    | some inner =>
      let stop := if !closing && source.hasAt inner.index '/' then inner.index + 1 else inner.index
      if source.hasAt stop '>' then some { inner with index := stop + 1 } else none

end Setting

namespace Source

/-- Looks for the first place from an index on at which a word stands, and gives the index after it. -/
def findAfter? (source : Source) (word : List Char) (index : Nat) : Option Nat :=
  if index < source.size then
    if source.startsWith index word then some (index + word.length)
    else source.findAfter? word (index + 1)
  else none
termination_by source.size - index

/-- Reads a comment, a marked section or a declaration behind its exclamation mark. -/
def declaration? (source : Source) (index : Nat) : Option Nat :=
  match source.at? index with
  | some '-' =>
    if source.hasAt (index + 1) '-' then source.findAfter? ['-', '-', '>'] index else none
  | some '[' =>
    if source.startsWith (index + 1) ['C', 'D', 'A', 'T', 'A', '['] then
      let brackets := source.skipWhile (· != ']') (index + 7)
      let stop := source.skipWhile (· == ']') brackets
      if brackets < stop && source.hasAt stop '>' then some (stop + 1) else none
    else none
  | some c =>
    if c.isAlpha then
      let stop := source.skipWhile (· != '>') (index + 1)
      if source.hasAt stop '>' then some (stop + 1) else none
    else none
  | none => none

end Source

namespace Setting

/-- Reads HTML behind an angle bracket at the given index, if there is any. -/
def inlineHtml? (setting : Setting) (bracket next : Nat) : Option TagScan :=
  match setting.source.at? next with
  | none => none
  | some '!' => (setting.source.declaration? (next + 1)).map (⟨·, []⟩)
  | some '?' => (setting.source.findAfter? ['?', '>'] (next + 1)).map (⟨·, []⟩)
  | some _ => setting.tag? .several bracket

end Setting

/-! ## Blocks of HTML -/

/-- The elements whose block lasts until they are closed. -/
def verbatimElements : List String := ["pre", "style", "script", "textarea"]

/-- The elements whose block lasts until a blank line. -/
def blockElements : List String :=
  ["address", "article", "aside", "base", "basefont", "blockquote", "body", "caption", "center",
    "col", "colgroup", "dd", "details", "dialog", "dir", "div", "dl", "dt", "fieldset", "figcaption",
    "figure", "footer", "form", "frame", "frameset", "h1", "h2", "h3", "h4", "h5", "h6", "head",
    "header", "hr", "html", "iframe", "legend", "li", "link", "main", "menu", "menuitem", "nav",
    "noframes", "ol", "optgroup", "option", "p", "param", "search", "section", "summary", "table",
    "tbody", "td", "tfoot", "th", "thead", "title", "tr", "track", "ul"]

/-- The text that ends a block of HTML, where only that text does. -/
def htmlBlockEnd? (source : Source) (index : Nat) : Option (List Char) :=
  let stop := source.skipWhile Char.isAlpha index
  let name := (source.text index stop).toLower
  if verbatimElements.contains name && !source.isAt stop (fun c => !(isSpace c || c == '>')) then
    some (['<', '/'] ++ name.toList ++ ['>'])
  else if source.startsWith index ['!', '-', '-'] then some ['-', '-', '>']
  else if source.startsWith index ['?'] then some ['?', '>']
  else if source.startsWith index ['!', '[', 'C', 'D', 'A', 'T', 'A', '['] then
    some [']', ']', '>']
  else if source.startsWith index ['!'] && source.isAt (index + 1) Char.isUpper then some ['>']
  else none

/-- Whether a block element opens or closes behind an angle bracket. -/
def startsBlockElement (source : Source) (index : Nat) : Bool :=
  let start := if source.hasAt index '/' then index + 1 else index
  let stop := source.skipWhile Char.isAlphanum start
  blockElements.contains (source.text start stop).toLower &&
    match source.at? stop with
    | none => true
    | some c =>
      c == ' ' || c == '\t' || c == '\r' || c == '\n' || c == '>' ||
        source.startsWith stop ['/', '>']

/-- Whether a line holds nothing but one tag. -/
def Setting.isLoneTag (setting : Setting) (index : Nat) : Bool :=
  match setting.tag? .one index with
  | none => false
  | some scan => (setting.source.blankLine? scan.index).isSome

end Highlighter.Markdown
