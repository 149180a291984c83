/-!
# YAML tokens

The first stage of reading YAML: the characters of a document become tokens (indicators,
scalars, anchors, tags, and the block structure that indentation implies). The scanner is
driven by the parser, one token at a time, so a malformed document fails exactly when the
parser asks for the token that cannot be made.

A plain or quoted scalar, an anchor, an alias or a tag may turn out to be the key of a
mapping once a `:` follows it on the same line. The scanner remembers such a *possible
simple key* and, when the `:` comes, inserts the key token (and, in block context, the start
of a mapping) before it. A token that may still become a key is not handed to the parser
until that is decided. A simple key at the indentation of a block mapping is *required*: if
its line ends without a `:`, the document is malformed.

Positions (`Mark`) count lines and columns from zero, columns in characters.
-/

namespace ChatBot

namespace YamlFormat

/-- A position in the document: byte index, line and column, from zero. -/
structure Mark where
  index : Nat := 0
  line : Nat := 0
  column : Nat := 0
deriving Inhabited, DecidableEq, Repr

/-- Whether a mark is the very start, which reports leave out. -/
def Mark.isStart (m : Mark) : Bool := m.line == 0 && m.column == 0

/-- A mark as reports write it, counting from one. -/
def Mark.text (m : Mark) : String :=
  "line " ++ toString (m.line + 1) ++ " column " ++ toString (m.column + 1)

/-- A malformed document: what is wrong and where, and what was being read, from where. -/
structure Problem where
  problem : String
  mark : Mark := {}
  context : Option String := none
  contextMark : Mark := {}
  /-- The byte offset, for problems found before any position is known. -/
  offset : Nat := 0
deriving Inhabited

/-- The report of a malformed document: the problem and its position, then what was being
read and where that began (when it began elsewhere). -/
def Problem.text (p : Problem) : String :=
  let place :=
    if !p.mark.isStart then " at " ++ p.mark.text
    else if p.offset != 0 then " at position " ++ toString p.offset
    else ""
  let during := match p.context with
    | none => ""
    | some c =>
      ", " ++ c ++
        (if !p.contextMark.isStart &&
            (p.contextMark.line != p.mark.line || p.contextMark.column != p.mark.column)
         then " at " ++ p.contextMark.text else "")
  p.problem ++ place ++ during

/-- How a scalar was written. -/
inductive Style where
  | plain
  | singleQuoted
  | doubleQuoted
  | literal
  | folded
deriving Inhabited, DecidableEq, Repr

/-- The kinds of tokens. -/
inductive TokenKind where
  | streamStart
  | streamEnd
  | versionDirective (major minor : Nat)
  | tagDirective (handle pfx : String)
  | documentStart
  | documentEnd
  | blockSequenceStart
  | blockMappingStart
  | blockEnd
  | flowSequenceStart
  | flowSequenceEnd
  | flowMappingStart
  | flowMappingEnd
  | blockEntry
  | flowEntry
  | key
  | value
  | alias (name : String)
  | anchor (name : String)
  | tag (handle suffix : String)
  | scalar (text : String) (style : Style)
deriving Inhabited, DecidableEq, Repr

/-- A token and the marks where it starts and ends. -/
structure Token where
  kind : TokenKind
  start : Mark
  stop : Mark
deriving Inhabited, Repr

/-- A place where a simple key may have started. -/
structure SimpleKey where
  possible : Bool := false
  required : Bool := false
  tokenNumber : Nat := 0
  mark : Mark := {}
deriving Inhabited

/-- The scanner: the characters, the position, the tokens made so far (numbered from the
first), how many the parser has taken, and the block and flow structure. -/
structure Scanner where
  input : Array Char
  pos : Nat := 0
  mark : Mark := {}
  started : Bool := false
  ended : Bool := false
  flowLevel : Nat := 0
  tokens : Array Token := #[]
  taken : Nat := 0
  indent : Int := -1
  indents : List Int := []
  keyAllowed : Bool := false
  /-- One entry per flow level, innermost first. -/
  keys : List SimpleKey := []
deriving Inhabited

/-- A scanning step. -/
abbrev Scan := StateT Scanner (Except Problem)

variable {α : Type}

/-! ## Characters -/

/-- The character `k` places ahead; NUL past the end. -/
def charAt (k : Nat) : Scan Char := do
  let s ← get
  pure (s.input[s.pos + k]?.getD '\x00')

/-- Whether a character is a space or a tab. -/
def isBlank (c : Char) : Bool := c == ' ' || c == '\t'

/-- Whether a character breaks a line. -/
def isBreak (c : Char) : Bool :=
  c == '\r' || c == '\n' || c == '\u0085' || c == '\u2028' || c == '\u2029'

/-- Whether a character breaks a line or ends the input. -/
def isBreakZ (c : Char) : Bool := isBreak c || c == '\x00'

/-- Whether a character is blank, breaks a line or ends the input. -/
def isBlankZ (c : Char) : Bool := isBlank c || isBreakZ c

/-- Whether a character may appear in an anchor name or a directive name. -/
def isWord (c : Char) : Bool :=
  ('0' ≤ c && c ≤ '9') || ('A' ≤ c && c ≤ 'Z') || ('a' ≤ c && c ≤ 'z') || c == '_' || c == '-'

/-- Whether a character is a hexadecimal digit. -/
def isHexDigit (c : Char) : Bool :=
  ('0' ≤ c && c ≤ '9') || ('A' ≤ c && c ≤ 'F') || ('a' ≤ c && c ≤ 'f')

/-- The value of a hexadecimal digit. -/
def hexDigitValue (c : Char) : Nat :=
  if c ≤ '9' then c.toNat - 48 else if c ≤ 'F' then c.toNat - 55 else c.toNat - 87

/-- A bound on the steps of any loop over the input. -/
def room : Scan Nat := do
  pure ((← get).input.size + 2)

/-- Moves past one character. -/
def skip : Scan Unit := modify fun s =>
  let c := s.input[s.pos]?.getD '\x00'
  { s with pos := s.pos + 1,
           mark := { s.mark with index := s.mark.index + c.utf8Size, column := s.mark.column + 1 } }

/-- Moves past a line break (`\r\n` counts as one). -/
def skipLine : Scan Unit := do
  let c ← charAt 0
  let d ← charAt 1
  if c == '\r' && d == '\n' then
    modify fun s =>
      { s with pos := s.pos + 2, mark := { index := s.mark.index + 2, line := s.mark.line + 1 } }
  else if isBreak c then
    modify fun s =>
      { s with pos := s.pos + 1, mark := { index := s.mark.index + c.utf8Size, line := s.mark.line + 1 } }

/-- Takes one character. -/
def takeChar : Scan Char := do
  let c ← charAt 0
  skip
  pure c

/-- Takes a line break, written as `\n` (line and paragraph separators stay as they are);
nothing when no line break is here. -/
def takeLine : Scan String := do
  let c ← charAt 0
  if !isBreak c then return ""
  skipLine
  pure (if c == '\u2028' || c == '\u2029' then String.singleton c else "\n")

/-- Skips characters while `p` holds. -/
def skipWhile (p : Char → Bool) : Scan Unit := do
  for _ in [0:← room] do
    if p (← charAt 0) then skip else break

/-- Takes characters while `p` holds. -/
def takeWhile (p : Char → Bool) : Scan String := do
  let mut out := ""
  for _ in [0:← room] do
    let c ← charAt 0
    if p c then
      skip
      out := out.push c
    else break
  pure out

/-- Fails here, while reading what `context` names from `contextMark`. -/
def fail (context : Option String) (contextMark : Mark) (problem : String) : Scan α := do
  throw { problem := problem, mark := (← get).mark, context := context, contextMark := contextMark }

/-- Whether a document marker (`---` or `...` followed by a blank) starts here, at the start
of a line. -/
def atDocumentMarker : Scan Bool := do
  let s ← get
  if s.mark.column != 0 then return false
  let a ← charAt 0
  let b ← charAt 1
  let c ← charAt 2
  let d ← charAt 3
  pure (((a == '-' && b == '-' && c == '-') || (a == '.' && b == '.' && c == '.')) && isBlankZ d)

/-! ## The token queue, indentation and simple keys -/

/-- Adds a token at the end of the queue. -/
def enqueue (kind : TokenKind) (start stop : Mark) : Scan Unit :=
  modify fun s => { s with tokens := s.tokens.push ⟨kind, start, stop⟩ }

/-- Inserts a token so that it gets number `n`. -/
def insertToken (n : Nat) (t : Token) : Scan Unit :=
  modify fun s => { s with tokens := (s.tokens.toList.take n ++ t :: s.tokens.toList.drop n).toArray }

/-- The innermost simple key. -/
def topKey : Scan SimpleKey := do
  pure ((← get).keys.headD {})

/-- Replaces the innermost simple key. -/
def setTopKey (k : SimpleKey) : Scan Unit :=
  modify fun s => { s with keys := match s.keys with
    | _ :: rest => k :: rest
    | [] => [k] }

/-- Forgets the innermost possible simple key; a required one cannot be forgotten. -/
def removeKey : Scan Unit := do
  let k ← topKey
  if k.possible && k.required then
    fail (some "while scanning a simple key") k.mark "could not find expected ':'"
  setTopKey { k with possible := false }

/-- Remembers that a simple key may start here. It is required in block context at the
current indentation. -/
def saveKey : Scan Unit := do
  let s ← get
  let required := s.flowLevel == 0 && s.indent == (s.mark.column : Int)
  if s.keyAllowed then
    let k : SimpleKey :=
      { possible := true, required := required, tokenNumber := s.tokens.size, mark := s.mark }
    removeKey
    setTopKey k

/-- Forgets possible simple keys that can no longer be keys: a key must end on its line and
within 1024 characters. -/
def staleKeys : Scan Unit := do
  let s ← get
  let keys ← s.keys.reverse.mapM fun k =>
    if k.possible && (k.mark.line < s.mark.line || k.mark.index + 1024 < s.mark.index) then
      if k.required then
        throw { problem := "could not find expected ':'", mark := s.mark,
                context := some "while scanning a simple key", contextMark := k.mark : Problem }
      else pure { k with possible := false }
    else pure k
  set { s with keys := keys.reverse }

/-- Enters a flow collection. -/
def increaseFlow : Scan Unit :=
  modify fun s => { s with keys := {} :: s.keys, flowLevel := s.flowLevel + 1 }

/-- Leaves a flow collection. -/
def decreaseFlow : Scan Unit :=
  modify fun s =>
    if s.flowLevel > 0 then { s with flowLevel := s.flowLevel - 1, keys := s.keys.drop 1 } else s

/-- In block context, opens a block collection at `column` when it is deeper than the
current indentation, with a token made at `mark` (inserted as number `n` when given). -/
def rollIndent (column : Int) (n : Option Nat) (kind : TokenKind) (mark : Mark) : Scan Unit := do
  let s ← get
  if s.flowLevel > 0 then return
  if s.indent < column then
    set { s with indents := s.indent :: s.indents, indent := column }
    match n with
    | none => enqueue kind mark mark
    | some n => insertToken n ⟨kind, mark, mark⟩

/-- In block context, closes the block collections deeper than `column`. -/
def unrollIndent (column : Int) : Scan Unit := do
  if (← get).flowLevel > 0 then return
  for _ in [0:(← get).indents.length + 1] do
    let s ← get
    if s.indent > column then
      set { s with indent := s.indents.headD (-1), indents := s.indents.drop 1,
                   tokens := s.tokens.push ⟨.blockEnd, s.mark, s.mark⟩ }
    else break

/-! ## Scalars -/

/-- Joins the blanks between two parts of a flow or plain scalar: a single line break folds
into a space, further line breaks stay; blanks within a line stay. -/
def fold (leadingBlanks : Bool) (whitespaces leadingBreak trailingBreaks : String) : String :=
  if leadingBlanks then
    if leadingBreak == "\n" then (if trailingBreaks == "" then " " else trailingBreaks)
    else leadingBreak ++ trailingBreaks
  else whitespaces

/-- A plain scalar. It ends before `: ` (and, in flow context, before `,[]{}`), before a
comment, at a document marker, and in block context at a line indented no deeper than the
enclosing block. -/
def plainScalar : Scan Unit := do
  let s0 ← get
  let start := s0.mark
  let mut stop := start
  let indent : Int := s0.indent + 1
  let mut out := ""
  let mut leadingBlanks := false
  let mut whitespaces := ""
  let mut leadingBreak := ""
  let mut trailingBreaks := ""
  for _ in [0:← room] do
    if ← atDocumentMarker then break
    if (← charAt 0) == '#' then break
    for _ in [0:← room] do
      let c ← charAt 0
      if isBlankZ c then break
      let flow := (← get).flowLevel > 0
      let d ← charAt 1
      if flow && c == ':' && (d == ',' || d == '?' || d == '[' || d == ']' || d == '{' || d == '}') then
        fail (some "while scanning a plain scalar") start "found unexpected ':'"
      if (c == ':' && isBlankZ d) ||
          (flow && (c == ',' || c == '[' || c == ']' || c == '{' || c == '}')) then
        break
      if leadingBlanks || whitespaces != "" then
        out := out ++ fold leadingBlanks whitespaces leadingBreak trailingBreaks
        whitespaces := ""
        leadingBreak := ""
        trailingBreaks := ""
        leadingBlanks := false
      out := out.push (← takeChar)
      stop := (← get).mark
    let c ← charAt 0
    if !(isBlank c || isBreak c) then break
    for _ in [0:← room] do
      let c ← charAt 0
      if isBlank c then
        if leadingBlanks && ((← get).mark.column : Int) < indent && c == '\t' then
          fail (some "while scanning a plain scalar") start
            "found a tab character that violates indentation"
        if !leadingBlanks then whitespaces := whitespaces.push (← takeChar) else skip
      else if isBreak c then
        if !leadingBlanks then
          whitespaces := ""
          leadingBreak ← takeLine
          leadingBlanks := true
        else trailingBreaks := trailingBreaks ++ (← takeLine)
      else break
    let s ← get
    if s.flowLevel == 0 && (s.mark.column : Int) < indent then break
  enqueue (.scalar out .plain) start stop
  if leadingBlanks then modify fun s => { s with keyAllowed := true }

/-- The text of a backslash escape in a double-quoted scalar (after the backslash), or the
number of hexadecimal digits that give its code point. -/
def escapeOf (c : Char) : Option (String ⊕ Nat) :=
  match c with
  | '0' => some (.inl "\x00")
  | 'a' => some (.inl "\x07")
  | 'b' => some (.inl "\x08")
  | 't' | '\t' => some (.inl "\t")
  | 'n' => some (.inl "\n")
  | 'v' => some (.inl "\x0b")
  | 'f' => some (.inl "\x0c")
  | 'r' => some (.inl "\r")
  | 'e' => some (.inl "\x1b")
  | ' ' => some (.inl " ")
  | '"' => some (.inl "\"")
  | '/' => some (.inl "/")
  | '\'' => some (.inl "'")
  | '\\' => some (.inl "\\")
  | 'N' => some (.inl "\u0085")
  | '_' => some (.inl "\u00a0")
  | 'L' => some (.inl "\u2028")
  | 'P' => some (.inl "\u2029")
  | 'x' => some (.inr 2)
  | 'u' => some (.inr 4)
  | 'U' => some (.inr 8)
  | _ => none

/-- A single- or double-quoted scalar. Line breaks fold as in plain scalars; in single
quotes `''` is a quote, in double quotes backslash escapes apply and a backslash at the end
of a line joins the lines. -/
def quotedScalar (single : Bool) : Scan Unit := do
  let start := (← get).mark
  let quote := if single then '\'' else '"'
  skip
  let mut out := ""
  let mut leadingBlanks := false
  let mut whitespaces := ""
  let mut leadingBreak := ""
  let mut trailingBreaks := ""
  for _ in [0:← room] do
    if ← atDocumentMarker then
      fail (some "while scanning a quoted scalar") start "found unexpected document indicator"
    if (← charAt 0) == '\x00' then
      fail (some "while scanning a quoted scalar") start "found unexpected end of stream"
    leadingBlanks := false
    for _ in [0:← room] do
      let c ← charAt 0
      if isBlankZ c then break
      let d ← charAt 1
      if single && c == '\'' && d == '\'' then
        out := out.push '\''
        skip
        skip
      else if c == quote then break
      else if !single && c == '\\' && isBreak d then
        skip
        skipLine
        leadingBlanks := true
        break
      else if !single && c == '\\' then
        match escapeOf d with
        | none => fail (some "while parsing a quoted scalar") start "found unknown escape character"
        | some (.inl text) =>
          skip
          skip
          out := out ++ text
        | some (.inr width) =>
          skip
          skip
          let mut code := 0
          for k in [0:width] do
            let h ← charAt k
            if !isHexDigit h then
              fail (some "while parsing a quoted scalar") start "did not find expected hexadecimal number"
            code := code * 16 + hexDigitValue h
          if (0xD800 ≤ code && code ≤ 0xDFFF) || code > 0x10FFFF then
            fail (some "while parsing a quoted scalar") start "found invalid Unicode character escape code"
          out := out.push (Char.ofNat code)
          for _ in [0:width] do skip
      else out := out.push (← takeChar)
    if (← charAt 0) == quote then break
    for _ in [0:← room] do
      let c ← charAt 0
      if isBlank c then
        if !leadingBlanks then whitespaces := whitespaces.push (← takeChar) else skip
      else if isBreak c then
        if !leadingBlanks then
          whitespaces := ""
          leadingBreak ← takeLine
          leadingBlanks := true
        else trailingBreaks := trailingBreaks ++ (← takeLine)
      else break
    out := out ++ fold leadingBlanks whitespaces leadingBreak trailingBreaks
    whitespaces := ""
    leadingBreak := ""
    trailingBreaks := ""
  skip
  enqueue (.scalar out (if single then .singleQuoted else .doubleQuoted)) start (← get).mark

/-- The indentation and empty lines before a line of a block scalar: skips indentation
spaces (up to `indent` when it is known), collects the line breaks, and, when `indent` is 0,
fixes it at the deepest indentation seen (at least one past the enclosing block). -/
def blockBreaks (indent : Nat) (start : Mark) : Scan (Nat × String × Mark) := do
  let mut maxIndent := 0
  let mut breaks := ""
  let mut stop := (← get).mark
  for _ in [0:← room] do
    for _ in [0:← room] do
      if (indent == 0 || (← get).mark.column < indent) && (← charAt 0) == ' ' then skip else break
    let column := (← get).mark.column
    if column > maxIndent then maxIndent := column
    if (indent == 0 || column < indent) && (← charAt 0) == '\t' then
      fail (some "while scanning a block scalar") start
        "found a tab character where an indentation space is expected"
    if !isBreak (← charAt 0) then break
    breaks := breaks ++ (← takeLine)
    stop := (← get).mark
  if indent != 0 then return (indent, breaks, stop)
  let least := ((← get).indent + 1).toNat
  pure (max (max maxIndent least) 1, breaks, stop)

/-- A literal (`|`) or folded (`>`) block scalar with its optional chomping (`+`, `-`) and
indentation indicators. -/
def blockScalar (literal : Bool) : Scan Unit := do
  let start := (← get).mark
  skip
  let mut chomping : Int := 0
  let mut increment := 0
  let c ← charAt 0
  if c == '+' || c == '-' then
    chomping := if c == '+' then 1 else -1
    skip
    let d ← charAt 0
    if d.isDigit then
      if d == '0' then
        fail (some "while scanning a block scalar") start "found an indentation indicator equal to 0"
      increment := d.toNat - 48
      skip
  else if c.isDigit then
    if c == '0' then
      fail (some "while scanning a block scalar") start "found an indentation indicator equal to 0"
    increment := c.toNat - 48
    skip
    let d ← charAt 0
    if d == '+' || d == '-' then
      chomping := if d == '+' then 1 else -1
      skip
  skipWhile isBlank
  if (← charAt 0) == '#' then skipWhile (fun c => !isBreakZ c)
  if !isBreakZ (← charAt 0) then
    fail (some "while scanning a block scalar") start "did not find expected comment or line break"
  if isBreak (← charAt 0) then skipLine
  let outer := (← get).indent
  let given : Nat := if increment == 0 then 0 else if outer ≥ 0 then (outer + increment).toNat else increment
  let (indent, first, firstStop) ← blockBreaks given start
  let mut trailingBreaks := first
  let mut stop := firstStop
  let mut out := ""
  let mut leadingBreak := ""
  let mut leadingBlank := false
  for _ in [0:← room] do
    if !((← get).mark.column == indent && (← charAt 0) != '\x00') then break
    let trailingBlank := isBlank (← charAt 0)
    if !literal && leadingBreak.startsWith "\n" && !leadingBlank && !trailingBlank then
      if trailingBreaks == "" then out := out.push ' '
    else out := out ++ leadingBreak
    leadingBreak := ""
    out := out ++ trailingBreaks
    trailingBreaks := ""
    leadingBlank := isBlank (← charAt 0)
    out := out ++ (← takeWhile (fun c => !isBreakZ c))
    leadingBreak ← takeLine
    let (_, more, moreStop) ← blockBreaks indent start
    trailingBreaks := more
    stop := moreStop
  if chomping != -1 then out := out ++ leadingBreak
  if chomping == 1 then out := out ++ trailingBreaks
  enqueue (.scalar out (if literal then .literal else .folded)) start stop

/-! ## Anchors, tags and directives -/

/-- An anchor (`&name`) or alias (`*name`). -/
def anchorOrAlias (isAlias : Bool) : Scan Unit := do
  let start := (← get).mark
  skip
  let name ← takeWhile isWord
  let stop := (← get).mark
  let c ← charAt 0
  if name.isEmpty || !(isBlankZ c || c == '?' || c == ':' || c == ',' || c == ']' || c == '}' ||
      c == '%' || c == '@' || c == '\x60') then
    fail (some (if isAlias then "while scanning an alias" else "while scanning an anchor")) start
      "did not find expected alphabetic or numeric character"
  enqueue (if isAlias then .alias name else .anchor name) start stop

/-- Whether a character may appear in a tag's URI; `verbatim` (inside `!<…>`) also allows
`,[]`. -/
def isUriChar (verbatim : Bool) (c : Char) : Bool :=
  isWord c || ";/?:@&=+$.%!~*'()".contains c || (verbatim && (c == ',' || c == '[' || c == ']'))

/-- The octets of `%XX` escapes in a URI, one UTF-8 character. The octets are checked only for
their shape (a leading octet and its trailing ones), so a surrogate or an overlong form passes;
such a character reads as U+FFFD, which keeps the tag apart from every standard tag. -/
def uriEscapes (context : String) (start : Mark) : Scan String := do
  let mut octets : Array UInt8 := #[]
  let mut width := 0
  for _ in [0:4] do
    let a ← charAt 0
    let b ← charAt 1
    let c ← charAt 2
    if !(a == '%' && isHexDigit b && isHexDigit c) then
      fail (some context) start "did not find URI escaped octet"
    let octet := hexDigitValue b * 16 + hexDigitValue c
    if width == 0 then
      width :=
        if octet < 0x80 then 1 else if octet / 32 == 6 then 2 else if octet / 16 == 14 then 3
        else if octet / 8 == 30 then 4 else 0
      if width == 0 then fail (some context) start "found an incorrect leading UTF-8 octet"
    else if octet / 64 != 2 then
      fail (some context) start "found an incorrect trailing UTF-8 octet"
    octets := octets.push octet.toUInt8
    skip
    skip
    skip
    if octets.size == width then break
  pure ((String.fromUTF8? ⟨octets⟩).getD "\uFFFD")

/-- The URI of a tag, after `head` (a handle that turned out to be part of it, whose `!` is
left out). -/
def tagUri (verbatim directive : Bool) (head : String) (start : Mark) : Scan String := do
  let context := if directive then "while parsing a %TAG directive" else "while parsing a tag"
  let mut out := (head.drop 1).toString
  let mut length := head.length
  for _ in [0:← room] do
    let c ← charAt 0
    if !isUriChar verbatim c then break
    if c == '%' then out := out ++ (← uriEscapes context start)
    else out := out.push (← takeChar)
    length := length + 1
  if length == 0 then fail (some context) start "did not find expected tag URI"
  pure out

/-- A tag handle: `!`, `!!` or `!name!` (in a tag, `!name` too, as the start of a URI). -/
def tagHandle (directive : Bool) (start : Mark) : Scan String := do
  if (← charAt 0) != '!' then
    fail (some (if directive then "while scanning a tag directive" else "while scanning a tag")) start
      "did not find expected '!'"
  let mut out := String.singleton (← takeChar)
  out := out ++ (← takeWhile isWord)
  if (← charAt 0) == '!' then out := out.push (← takeChar)
  else if directive && out != "!" then
    fail (some "while parsing a tag directive") start "did not find expected '!'"
  pure out

/-- A tag: `!<uri>`, `!handle!suffix`, `!suffix` or `!`. -/
def tag : Scan Unit := do
  let start := (← get).mark
  let (handle, suffix) ← if (← charAt 1) == '<' then do
      skip
      skip
      let suffix ← tagUri true false "" start
      if (← charAt 0) != '>' then
        fail (some "while scanning a tag") start "did not find the expected '>'"
      skip
      pure ("", suffix)
    else do
      let handle ← tagHandle false start
      if handle.length > 1 && handle.endsWith "!" then
        pure (handle, ← tagUri false false "" start)
      else
        let suffix ← tagUri false false handle start
        pure (if suffix.isEmpty then ("", "!") else ("!", suffix))
  let c ← charAt 0
  if !isBlankZ c && !((← get).flowLevel > 0 && c == ',') then
    fail (some "while scanning a tag") start "did not find expected whitespace or line break"
  enqueue (.tag handle suffix) start (← get).mark

/-- A number in a `%YAML` directive. -/
def versionNumber (start : Mark) : Scan Nat := do
  let mut value := 0
  let mut length := 0
  for _ in [0:← room] do
    let c ← charAt 0
    if !c.isDigit then break
    length := length + 1
    if length > 9 then
      fail (some "while scanning a %YAML directive") start "found extremely long version number"
    value := value * 10 + (c.toNat - 48)
    skip
  if length == 0 then
    fail (some "while scanning a %YAML directive") start "did not find expected version number"
  pure value

/-- A directive line: `%YAML major.minor` or `%TAG handle prefix`. -/
def directive : Scan Unit := do
  let start := (← get).mark
  skip
  let name ← takeWhile isWord
  if name.isEmpty then
    fail (some "while scanning a directive") start "could not find expected directive name"
  if !isBlankZ (← charAt 0) then
    fail (some "while scanning a directive") start "found unexpected non-alphabetical character"
  if name == "YAML" then
    skipWhile isBlank
    let major ← versionNumber start
    if (← charAt 0) != '.' then
      fail (some "while scanning a %YAML directive") start "did not find expected digit or '.' character"
    skip
    let minor ← versionNumber start
    enqueue (.versionDirective major minor) start (← get).mark
  else if name == "TAG" then
    skipWhile isBlank
    let handle ← tagHandle true start
    if !isBlank (← charAt 0) then
      fail (some "while scanning a %TAG directive") start "did not find expected whitespace"
    skipWhile isBlank
    let pfx ← tagUri true true "" start
    if !isBlankZ (← charAt 0) then
      fail (some "while scanning a %TAG directive") start "did not find expected whitespace or line break"
    enqueue (.tagDirective handle pfx) start (← get).mark
  else fail (some "while scanning a directive") start "found unknown directive name"
  skipWhile isBlank
  if (← charAt 0) == '#' then skipWhile (fun c => !isBreakZ c)
  if !isBreakZ (← charAt 0) then
    fail (some "while scanning a directive") start "did not find expected comment or line break"
  if isBreak (← charAt 0) then skipLine

/-! ## Tokens -/

/-- Skips blanks, comments and line breaks up to the next token. Tabs are skipped only in
flow context or where no simple key may start; a line break in block context allows a
simple key again. -/
def toNextToken : Scan Unit := do
  for _ in [0:← room] do
    if (← get).mark.column == 0 && (← charAt 0) == '\uFEFF' then skip
    let s ← get
    let tabs := s.flowLevel > 0 || !s.keyAllowed
    skipWhile (fun c => c == ' ' || (tabs && c == '\t'))
    if (← charAt 0) == '#' then skipWhile (fun c => !isBreakZ c)
    if isBreak (← charAt 0) then
      skipLine
      if (← get).flowLevel == 0 then modify fun s => { s with keyAllowed := true }
    else break

/-- Sets whether a simple key may start next. -/
def allowKey (b : Bool) : Scan Unit :=
  modify fun s => { s with keyAllowed := b }

/-- A one-character indicator token. -/
def indicator (kind : TokenKind) : Scan Unit := do
  let start := (← get).mark
  skip
  enqueue kind start (← get).mark

/-- The `:` of a mapping: after a possible simple key it makes that key (and, in block
context, may open a mapping at the key's column); otherwise it follows a `?` key. -/
def valueIndicator : Scan Unit := do
  let k ← topKey
  if k.possible then
    insertToken k.tokenNumber ⟨.key, k.mark, k.mark⟩
    rollIndent k.mark.column (some k.tokenNumber) .blockMappingStart k.mark
    setTopKey { k with possible := false }
    allowKey false
  else
    let s ← get
    if s.flowLevel == 0 then
      if !s.keyAllowed then fail none s.mark "mapping values are not allowed in this context"
      rollIndent s.mark.column none .blockMappingStart s.mark
    allowKey (s.flowLevel == 0)
  indicator .value

/-- Makes the next token. -/
def fetchNext : Scan Unit := do
  if !(← get).started then
    modify fun s => { s with indent := -1, keys := [{}], keyAllowed := true, started := true }
    let m := (← get).mark
    enqueue .streamStart m m
    return
  toNextToken
  staleKeys
  unrollIndent (← get).mark.column
  let c ← charAt 0
  let d ← charAt 1
  let s ← get
  let flow := s.flowLevel > 0
  if c == '\x00' then
    if s.mark.column != 0 then
      set { s with mark := { s.mark with column := 0, line := s.mark.line + 1 } }
    unrollIndent (-1)
    removeKey
    allowKey false
    modify fun s => { s with ended := true }
    let m := (← get).mark
    enqueue .streamEnd m m
  else if s.mark.column == 0 && c == '%' then
    unrollIndent (-1)
    removeKey
    allowKey false
    directive
  else if ← atDocumentMarker then
    unrollIndent (-1)
    removeKey
    allowKey false
    let start := s.mark
    skip
    skip
    skip
    enqueue (if c == '-' then .documentStart else .documentEnd) start (← get).mark
  else if c == '[' || c == '{' then
    saveKey
    increaseFlow
    allowKey true
    indicator (if c == '[' then .flowSequenceStart else .flowMappingStart)
  else if c == ']' || c == '}' then
    removeKey
    decreaseFlow
    allowKey false
    indicator (if c == ']' then .flowSequenceEnd else .flowMappingEnd)
  else if c == ',' then
    removeKey
    allowKey true
    indicator .flowEntry
  else if c == '-' && isBlankZ d then
    if !flow then
      if !s.keyAllowed then fail none s.mark "block sequence entries are not allowed in this context"
      rollIndent s.mark.column none .blockSequenceStart s.mark
    removeKey
    allowKey true
    indicator .blockEntry
  else if c == '?' && (flow || isBlankZ d) then
    if !flow then
      if !s.keyAllowed then fail none s.mark "mapping keys are not allowed in this context"
      rollIndent s.mark.column none .blockMappingStart s.mark
    removeKey
    allowKey !flow
    indicator .key
  else if c == ':' && (flow || isBlankZ d) then valueIndicator
  else if c == '*' || c == '&' then
    saveKey
    allowKey false
    anchorOrAlias (c == '*')
  else if c == '!' then
    saveKey
    allowKey false
    tag
  else if (c == '|' || c == '>') && !flow then
    removeKey
    allowKey true
    blockScalar (c == '|')
  else if c == '\'' || c == '"' then
    saveKey
    allowKey false
    quotedScalar (c == '\'')
  else if !(isBlankZ c || "-?:,[]\x7b\x7d#&*!|>'\"%@".contains c || c == '\x60') ||
      (c == '-' && !isBlank d) || (!flow && (c == '?' || c == ':') && !isBlankZ d) then
    saveKey
    allowKey false
    plainScalar
  else fail (some "while scanning for the next token") s.mark "found character that cannot start any token"

/-- Makes tokens until the next one is decided: there is one, and it is not a possible
simple key whose `:` may still come. -/
def fetchMore : Scan Unit := do
  for _ in [0:(← room) * 4 + 8] do
    let s ← get
    let need ← if s.taken ≥ s.tokens.size then pure true else do
      staleKeys
      let s ← get
      pure (s.keys.any fun k => k.possible && k.tokenNumber == s.taken)
    if need then fetchNext else break

/-- The next token, not taken. -/
def peekToken : Scan Token := do
  fetchMore
  let s ← get
  match s.tokens[s.taken]? with
  | some t => pure t
  | none => throw { problem := "did not find expected token", mark := s.mark }

/-- Takes the next token. -/
def skipToken : Scan Unit :=
  modify fun s => { s with taken := s.taken + 1 }

end YamlFormat

end ChatBot
