import Highlighter.Markdown.Inline
import Highlighter.Markdown.RawHtml
import Highlighter.Markdown.Reference

/-!
# Reading inline text

The tokens of a block are read from left to right. Code spans, raw HTML and addresses in angle brackets take the
tokens that they cover. Brackets are kept until they are closed; what stands between them becomes a link or an
image if a destination follows, or a label that is defined. At last emphasis is resolved among what stands beside
each other.
-/

namespace Highlighter.Markdown

/-- An opening bracket that is not closed yet. -/
structure Bracket where
  image : Bool
  /-- Whether a link may still begin here. Links hold no links. -/
  active : Bool
  start : Nat
  stop : Nat
  /-- The pieces behind it, the last one first. -/
  behind : List Inline

/-- What has been read of an inline text. -/
structure InlineReader where
  /-- The open brackets, the last one first. -/
  brackets : List Bracket
  /-- The pieces before the first of them, the last one first. -/
  settled : List Inline
  /-- How much further references may copy. -/
  allowance : Nat

/-- A block text: its source up to the end of the block, and what the document defines. -/
structure InlineSetting where
  setting : Setting
  definitions : Definitions
  footnotes : List String

/-- A label in brackets. -/
inductive Label where
  | link (label : String)
  | footnote (label : String)

/-! ## Tokens behind an element -/

/-- The tokens that are left behind an index; what lies before it is cut off the first one. -/
def skipTokens (index : Nat) : List Token → List Token
  | [] => []
  | token :: tokens =>
    if token.stop ≤ index then skipTokens index tokens
    else { token with start := max token.start index } :: tokens

theorem length_skipTokens_le (index : Nat) (tokens : List Token) :
    (skipTokens index tokens).length ≤ tokens.length := by
  induction tokens with
  | nil => simp [skipTokens]
  | cons token tokens ih =>
    unfold skipTokens
    split <;> simp_all
    omega

/-- The next run of so many backticks, and the tokens behind it. -/
def findBackticks? (count : Nat) : List Token → Option (Token × List Token)
  | [] => none
  | token :: tokens =>
    match token.kind with
    | .backticks _ =>
      if token.stop - token.start = count then some (token, tokens) else findBackticks? count tokens
    | _ => findBackticks? count tokens

theorem length_of_findBackticks? {count : Nat} {tokens rest : List Token} {token : Token}
    (h : findBackticks? count tokens = some (token, rest)) : rest.length < tokens.length := by
  induction tokens with
  | nil => simp [findBackticks?] at h
  | cons head tail ih =>
    unfold findBackticks? at h
    split at h
    · -- Either this token is the run of backticks, or one further behind is.
      split at h
      · simp only [Option.some.injEq, Prod.mk.injEq] at h
        simp [← h.2]
      · have := ih h
        simp only [List.length_cons]
        omega
    · have := ih h
      simp only [List.length_cons]
      omega

/-- The run that closes a code span opened by so many backticks, and the tokens behind it. -/
def closingBackticks? (count : Nat) (tokens : List Token) : Option (Token × List Token) :=
  if count = 0 then none else findBackticks? count tokens

theorem length_of_closingBackticks? {count : Nat} {tokens rest : List Token} {token : Token}
    (h : closingBackticks? count tokens = some (token, rest)) : rest.length < tokens.length := by
  unfold closingBackticks? at h
  split at h
  · contradiction
  · exact length_of_findBackticks? h

/-- The tokens with the one that ends behind an index marked as a bracket that ends no reference, and the tokens
behind that one. -/
def closeLabel (index : Nat) : List Token → Option (List Token × List Token)
  | [] => none
  | token :: tokens =>
    if token.stop < index then
      (closeLabel index tokens).map fun (marked, rest) => (token :: marked, rest)
    else some ({ token with kind := .closing false } :: tokens, tokens)

theorem length_of_closeLabel {index : Nat} {tokens marked rest : List Token}
    (h : closeLabel index tokens = some (marked, rest)) :
    marked.length = tokens.length ∧ rest.length < tokens.length := by
  induction tokens generalizing marked with
  | nil => simp [closeLabel] at h
  | cons head tail ih =>
    unfold closeLabel at h
    split at h
    · -- A token before the index is kept, and the label closes further behind.
      obtain ⟨⟨inner, behind⟩, hinner, heq⟩ := Option.map_eq_some_iff.mp h
      simp only [Prod.mk.injEq] at heq
      obtain ⟨rfl, rfl⟩ := heq
      have := ih hinner
      simp only [List.length_cons]
      omega
    · simp only [Option.some.injEq, Prod.mk.injEq] at h
      obtain ⟨rfl, rfl⟩ := h
      simp

/-! ## Code spans -/

/-- The characters of a code span between two indices: a line end is a space, and what the containers claim of the
next line is left out. In a table an escaped pipe stands for itself. -/
def codeChars (setting : Setting) (stop index : Nat) : List Char :=
  let source := setting.source
  if _h : index < stop then
    match source.at? index with
    | none => []
    | some c =>
      match source.lineEnd? index with
      | some after =>
        ' ' :: codeChars setting stop (max (setting.skipClaims after) (index + 1))
      | none =>
        if c = '\\' ∧ setting.inTable ∧ source.hasAt (index + 1) '|' then
          '|' :: codeChars setting stop (index + 2)
        else c :: codeChars setting stop (index + 1)
  else []
termination_by stop - index

/-- The text of a code span. A space at either end is left out, unless there are only spaces. -/
def codeText (setting : Setting) (start stop : Nat) : String :=
  let chars := codeChars setting stop start
  if chars.head? == some ' ' && chars.getLast? == some ' ' && chars.any (· != ' ') then
    String.ofList (chars.drop 1).dropLast
  else String.ofList chars

/-! ## Links -/

/-- Passes over blanks, of which one may be a line end. -/
def linkSpace (setting : Setting) (index : Nat) : Nat :=
  let blank := setting.source.skipBlanks index
  match setting.source.lineEnd? blank with
  | some after => setting.source.skipBlanks (setting.skipClaims after)
  | none => blank

/-- Reads the title of a link behind its opening mark, up to and with the closing one. A line goes on at the token
behind the line end. -/
def linkTitle? (setting : Setting) (tokens : List Token) (opening closing : Char) (index : Nat)
    (reversed : List Char) : Option (Nat × String) :=
  let source := setting.source
  if h : index < setting.source.chars.size then
    let c := setting.source.chars[index]
    if c = closing then some (index + 1, String.ofList reversed.reverse)
    else if c = opening then none
    else
      let resumed := if c = '\n' ∨ c = '\r' then
          ((tokens.dropWhile (·.stop ≤ index + 1)).head?.map (·.start)).filter (index < ·)
        else none
      match resumed with
      | some next => linkTitle? setting tokens opening closing (max next (index + 1)) ('\n' :: reversed)
      | none =>
        match if c = '&' then source.reference? index else none with
        | some (stop, value) =>
          linkTitle? setting tokens opening closing (max stop (index + 1))
            (value.toList.reverse ++ reversed)
        | none =>
          if c = '\\' ∧ setting.inTable ∧ source.hasAt (index + 1) '\\'
              ∧ source.hasAt (index + 2) '|' then
            linkTitle? setting tokens opening closing (index + 3) ('|' :: reversed)
          else if c = '\\' ∧ source.isAt (index + 1) isAsciiPunctuation then
            linkTitle? setting tokens opening closing (index + 2)
              (source.slice (index + 1) (index + 2) ++ reversed)
          else linkTitle? setting tokens opening closing (index + 1) (c :: reversed)
  else none
termination_by setting.source.chars.size - index

/-- Reads a title if one begins here. -/
def linkTitleAt? (setting : Setting) (tokens : List Token) (index : Nat) : Option (Nat × String) :=
  match setting.source.at? index with
  | some '"' => linkTitle? setting tokens '"' '"' (index + 1) []
  | some '\'' => linkTitle? setting tokens '\'' '\'' (index + 1) []
  | some '(' => linkTitle? setting tokens '(' ')' (index + 1) []
  | _ => none

/-- Reads a destination and a title in parentheses: the index behind them, and both texts. -/
def inlineDestination? (setting : Setting) (tokens : List Token) (index : Nat) :
    Option (Nat × String × String) :=
  let source := setting.source
  if source.hasAt index '(' then
    match source.destination? (linkSpace setting (index + 1)) with
    | none => none
    | some (stop, destination) =>
      let next := linkSpace setting stop
      let (closing, title) := match linkTitleAt? setting tokens next with
        | some (after, title) => (linkSpace setting after, title)
        | none => (next, "")
      if source.hasAt closing ')' then
        some (closing + 1, unescape setting.inTable destination, title)
      else none
  else none

/-- Reads a label in brackets at its opening bracket. -/
def labelAt? (setting : Setting) (index : Nat) : Option (Nat × Label) :=
  let source := setting.source
  if source.hasAt index '[' then
    let footnote := if source.hasAt (index + 1) '^' && !source.hasAt (index + 2) ']' then
        source.label? setting.inTable (fun _ => none) (index + 2)
      else none
    match footnote with
    | some (stop, label) => some (stop, .footnote label)
    | none =>
      (source.label? setting.inTable (fun next => some (setting.skipClaims next)) (index + 1)).map
        fun (stop, label) => (stop, .link label)
  else none

namespace InlineReader

/-- Nothing has been read. -/
def start (allowance : Nat) : InlineReader := ⟨[], [], allowance⟩

/-- Adds pieces, the last one first, behind the last bracket. -/
def add (reader : InlineReader) (reversed : List Inline) : InlineReader :=
  match reader.brackets with
  | [] => { reader with settled := reversed ++ reader.settled }
  | bracket :: brackets =>
    { reader with brackets := { bracket with behind := reversed ++ bracket.behind } :: brackets }

/-- The pieces of a bracket that is text after all, the last one first. -/
def bracketAsText (bracket : Bracket) : List Inline :=
  bracket.behind ++ [.text (if bracket.image then "![" else "[") bracket.start bracket.stop]

/-- The reader with all brackets made text. -/
def dropBrackets (reader : InlineReader) : InlineReader :=
  ⟨[], reader.brackets.flatMap bracketAsText ++ reader.settled, reader.allowance⟩

/-- The reader in which no link may begin at the open brackets. -/
def noLinks (reader : InlineReader) : InlineReader :=
  { reader with brackets := reader.brackets.map fun bracket =>
      { bracket with active := bracket.active && bracket.image } }

/-- Adds the link or image that a bracket has become. -/
def addLink (reader : InlineReader) (bracket : Bracket) (url title : String) (stop : Nat) :
    InlineReader :=
  let children := resolveEmphasis bracket.behind.reverse
  let tag := if bracket.image then Tag.image url title else Tag.link url title
  let added := reader.add [.nested tag children bracket.start stop]
  if bracket.image then added else added.noLinks

/-- Adds the link or image that a bracket has become by a reference to a label, if the label is defined. -/
def addReference? (reader : InlineReader) (definitions : Definitions) (bracket : Bracket)
    (label : String) (stop : Nat) : Option InlineReader :=
  (definitions.refer? reader.allowance label).map fun (definition, left) =>
    { reader with allowance := left }.addLink bracket definition.destination definition.titleText
      stop

/-- Adds the reference to a footnote that a bracket has become. The brackets around it become text. -/
def addFootnote (reader : InlineReader) (bracket : Bracket) (label : String) (stop : Nat) :
    InlineReader :=
  let mark : List Inline :=
    if bracket.image then [.text "!" bracket.start (bracket.start + 1)] else []
  let start := if bracket.image then bracket.start + 1 else bracket.start
  (reader.dropBrackets).add (.footnote label start stop :: mark)

/-- What a closing bracket makes of the text behind the last opening one. -/
inductive Closing (tokens : List Token) where
  /-- It makes an element; reading goes on with the given tokens. -/
  | element (reader : InlineReader) (rest : List Token) (h : rest.length ≤ tokens.length)
  /-- It makes none; the further tokens may have been marked. -/
  | nothing (rest : List Token) (h : rest.length ≤ tokens.length)

/-- Settles what stands between two brackets as a reference to a label that ends at the closing bracket. -/
def closeShortcut (inline : InlineSetting) (reader : InlineReader) (bracket : Bracket)
    (token : Token) (after tokens : List Token) (h : after.length ≤ tokens.length) :
    Closing tokens :=
  let limited := { inline.setting with source := inline.setting.source.upTo token.stop }
  match labelAt? limited (bracket.stop - 1) with
  | some (stop, .link label) =>
    if stop = token.stop then
      match reader.addReference? inline.definitions bracket label stop with
      | some reader => .element reader after h
      | none => .nothing tokens (Nat.le_refl _)
    else .nothing tokens (Nat.le_refl _)
  | some (stop, .footnote label) =>
    if stop = token.stop ∧ inline.footnotes.contains (Unicode.foldCase label) then
      .element (reader.addFootnote bracket label stop) tokens (Nat.le_refl _)
    else .nothing tokens (Nat.le_refl _)
  | none => .nothing tokens (Nat.le_refl _)

/-- Settles what stands between two brackets. The reader is the one without the opening bracket. -/
def close (inline : InlineSetting) (reader : InlineReader) (bracket : Bracket) (token : Token)
    (reference : Bool) (tokens : List Token) : Closing tokens :=
  let setting := inline.setting
  match inlineDestination? setting tokens token.stop with
  | some (stop, url, title) =>
    .element (reader.addLink bracket url title stop) (skipTokens stop tokens)
      (length_skipTokens_le stop tokens)
  | none =>
    match tokens with
    | [] =>
      if reference then closeShortcut inline reader bracket token [] [] (Nat.le_refl _)
      else .nothing [] (Nat.le_refl _)
    | next :: more =>
      -- An empty label behind the brackets: their own text is the label.
      if setting.source.startsWith next.start ['[', ']'] then
        if reference then
          closeShortcut inline reader bracket token (more.drop 1) (next :: more)
            (by simp only [List.length_drop, List.length_cons]; omega)
        else .nothing (next :: more) (Nat.le_refl _)
      else
        match labelAt? setting next.start with
        | some (stop, .link label) =>
          match hclose : closeLabel stop (next :: more) with
          | none => .nothing (next :: more) (Nat.le_refl _)
          | some (marked, after) =>
            match reader.addReference? inline.definitions bracket label stop with
            | some reader => .element reader after (Nat.le_of_lt (length_of_closeLabel hclose).2)
            -- The label is not defined, and the bracket that ends it need not be tried again.
            | none => .nothing marked (Nat.le_of_eq (length_of_closeLabel hclose).1)
        | _ =>
          if reference then
            closeShortcut inline reader bracket token (next :: more) (next :: more) (Nat.le_refl _)
          else .nothing (next :: more) (Nat.le_refl _)

end InlineReader

/-! ## Angle brackets -/

/-- The text of a tag without the pieces to leave out. -/
def tagText (source : Source) (start : Nat) (scan : TagScan) : String :=
  let (last, kept) := scan.gaps.reverse.foldl
    (fun (from', kept) gap => (gap.2, kept ++ source.text from' gap.1)) (start, "")
  kept ++ source.text last scan.index

/-- Reads an address or raw HTML at an angle bracket, before a token that begins at the given index. -/
def angleElement? (setting : Setting) (token : Token) (next : Nat) : Option (Inline × Nat) :=
  match setting.source.address? next with
  | some (stop, url) =>
    let text := setting.source.text (token.start + 1) (stop - 1)
    some (.nested (.link url "") [.text text (token.start + 1) (stop - 1)] token.start stop, stop)
  | none =>
    (setting.inlineHtml? (next - 1) next).map fun scan =>
      (.html (tagText setting.source token.start scan) token.start scan.index, scan.index)

/-! ## All tokens -/

namespace InlineReader

/-- The piece for a token that means nothing else. -/
def plainPiece (source : Source) (token : Token) : Inline :=
  match token.kind with
  | .resolved value => .text value token.start token.stop
  | .softBreak => .softBreak token.start token.stop
  | .hardBreak backslash => .hardBreak backslash token.start token.stop
  | .task checked => .task checked token.start token.stop
  | .emphasis mark opens closes =>
    .marks mark (token.stop - token.start) opens closes token.start
  | _ => .text (source.text token.start token.stop) token.start token.stop

/-- Reads the tokens of a text, and gives its pieces with the runs of emphasis marks among them, and the allowance
that is left. -/
def readTokens (inline : InlineSetting) (reader : InlineReader) (tokens : List Token) :
    List Inline × Nat :=
  match tokens with
  | [] => (reader.dropBrackets.settled.reverse, reader.allowance)
  | token :: rest =>
    let source := inline.setting.source
    let plain := reader.add [plainPiece source token]
    match token.kind with
    | .angle =>
      match rest.head?.bind fun next => angleElement? inline.setting token next.start with
      | some (piece, stop) => readTokens inline (reader.add [piece]) (skipTokens stop rest)
      | none => readTokens inline plain rest
    | .backticks escaped =>
      let length := token.stop - token.start
      let count := if escaped then length - 1 else length
      match hclose : closingBackticks? count rest with
      | none => readTokens inline plain rest
      | some (close, after) =>
        let start := if escaped then token.start + 1 else token.start
        let tick : List Inline :=
          if escaped then [.text "\x60" token.start (token.start + 1)] else []
        let code := codeText inline.setting token.stop close.start
        readTokens inline (reader.add (.code code start close.stop :: tick)) after
    | .bracket =>
      readTokens inline
        { reader with brackets := ⟨false, true, token.start, token.stop, []⟩ :: reader.brackets } rest
    | .imageBracket =>
      readTokens inline
        { reader with brackets := ⟨true, true, token.start, token.stop, []⟩ :: reader.brackets } rest
    | .closing reference =>
      match reader.brackets with
      | [] => readTokens inline plain rest
      | bracket :: brackets =>
        let outside : InlineReader := { reader with brackets := brackets }
        let text := (outside.add (bracketAsText bracket)).add [plainPiece source token]
        if bracket.active then
          match outside.close inline bracket token reference rest with
          | .element reader rest _ => readTokens inline reader rest
          | .nothing rest _ => readTokens inline text rest
        else readTokens inline text rest
    | _ => readTokens inline plain rest
termination_by tokens.length
decreasing_by
  all_goals simp only [List.length_cons]
  · exact Nat.lt_succ_of_le (length_skipTokens_le _ _)
  · omega
  · omega
  · exact Nat.lt_succ_of_lt (length_of_closingBackticks? hclose)
  all_goals omega

end InlineReader

/-- Reads the tokens of a block text, with the allowance for its references. -/
def readInline (inline : InlineSetting) (tokens : List Token) : StateM Nat (List Inline) := do
  let (pieces, left) := (InlineReader.start (← get)).readTokens inline tokens
  set left
  return resolveEmphasis pieces

end Highlighter.Markdown
