import ChatBot.Format.Binary64

/-!
# TOML syntax

The pieces of a TOML document below the level of tables: whitespace, comments, keys,
strings, numbers, dates and times. Each piece is read from a byte offset of the document.

A reading step can fail in two ways. A *soft* failure means "this is not that piece"; the
caller may try another piece from the same offset. A *hard* failure means "this is that
piece, but malformed", and ends the reading. Every failure carries the offset where it was
found and the words that describe it: a label naming the piece (`invalid string`), the
things that were expected there (`expected newline, "#"`), and a cause.
-/

namespace ChatBot

namespace TomlFormat

/-- Byte offsets `[start, stop)` in the document. -/
structure Span where
  start : Nat
  stop : Nat
deriving DecidableEq, Repr, Inhabited

/-- One thing a failure says was expected. -/
inductive Expect where
  | char (c : Char)
  | literal (s : String)
  | description (s : String)
deriving DecidableEq, Repr, Inhabited

/-- How an expectation is written: a character or literal in backquotes, except that a
newline is called `newline`. -/
def Expect.text : Expect → String
  | .char '\n' => "newline"
  | .char '\x60' => "'\x60'"
  | .char c => "\x60" ++ String.singleton c ++ "\x60"
  | .literal s => "\x60" ++ s ++ "\x60"
  | .description s => s

/-- What a failure says, gathered from the innermost piece outward. -/
inductive Note where
  | label (s : String)
  | expect (e : Expect)
  | cause (s : String)
deriving DecidableEq, Repr, Inhabited

/-- A failure: where, whether it is hard, and what it says. -/
structure Fail where
  offset : Nat
  hard : Bool := false
  notes : List Note := []
deriving DecidableEq, Repr, Inhabited

/-- The words of a failure: `invalid` and the innermost label, then the expectations in
order, then the cause, one per line. -/
def Fail.message (f : Fail) : String :=
  let label := f.notes.findSome? fun n => match n with | .label s => some s | _ => none
  let expected := f.notes.filterMap fun n => match n with | .expect e => some e.text | _ => none
  let cause := f.notes.findSome? fun n => match n with | .cause s => some s | _ => none
  "\n".intercalate ((label.map ("invalid " ++ ·)).toList
    ++ (if expected.isEmpty then [] else ["expected " ++ ", ".intercalate expected])
    ++ cause.toList)

/-- A reading step over the document's bytes; the state is the offset of the next byte. -/
abbrev Scan := ReaderT ByteArray (ExceptT Fail (StateM Nat))

variable {α : Type}

/-- The byte `k` places ahead, not taken. -/
def peekAt (k : Nat) : Scan (Option UInt8) := do
  pure (← read)[(← get) + k]?

/-- The next byte, not taken. -/
def peek : Scan (Option UInt8) :=
  peekAt 0

/-- Takes `n` bytes. -/
def advance (n : Nat) : Scan Unit :=
  modify (· + n)

/-- Whether the bytes ahead spell `s`. -/
def ahead (s : String) : Scan Bool := do
  let b ← read
  let i ← get
  pure (s.toUTF8.toList.zipIdx.all fun (c, k) => b[i + k]? == some c)

/-- A soft failure here. -/
def soft (notes : List Note := []) : Scan α := do
  throw { offset := ← get, notes := notes }

/-- A hard failure here. -/
def hard (notes : List Note := []) : Scan α := do
  throw { offset := ← get, hard := true, notes := notes }

/-- A hard failure at `offset`. -/
def hardAt (offset : Nat) (notes : List Note := []) : Scan α :=
  throw { offset := offset, hard := true, notes := notes }

/-- Makes every failure of `x` hard. -/
def firm (x : Scan α) : Scan α :=
  tryCatch x fun f => throw { f with hard := true }

/-- Adds words to every failure of `x`. -/
def noting (x : Scan α) (notes : List Note) : Scan α :=
  tryCatch x fun f => throw { f with notes := f.notes ++ notes }

/-- Runs `x`; a soft failure gives none and puts the offset back. -/
def attempt (x : Scan α) : Scan (Option α) := do
  let start ← get
  tryCatch (some <$> x) fun f => if f.hard then throw f else do set start; pure none

/-- The offset after the bytes at or after `i` that satisfy `p`, at most `limit` of them. -/
def runEnd (b : ByteArray) (p : UInt8 → Bool) (i : Nat) : Nat → Nat
  | 0 => i
  | limit + 1 => match b[i]? with
    | some c => if p c then runEnd b p (i + 1) limit else i
    | none => i

/-- Takes the bytes that satisfy `p` (at most `limit`) and returns them. -/
def takeRun (p : UInt8 → Bool) (limit : Nat := 1000000000) : Scan ByteArray := do
  let b ← read
  let i ← get
  let j := runEnd b p i (min limit (b.size - i))
  set j
  pure (b.extract i j)

/-- Whether a byte is a space or a tab. -/
def isBlank (c : UInt8) : Bool := c == 32 || c == 9

/-- Whether a byte is an ASCII digit. -/
def isDigit (c : UInt8) : Bool := 48 ≤ c && c ≤ 57

/-- Whether a byte is a hexadecimal digit. -/
def isHex (c : UInt8) : Bool := isDigit c || (97 ≤ c && c ≤ 102) || (65 ≤ c && c ≤ 70)

/-- Whether a byte may appear in a comment. -/
def isCommentByte (c : UInt8) : Bool := c == 9 || (32 ≤ c && c ≤ 126) || c ≥ 128

/-- Whether a byte may appear in a bare key. -/
def isBareKeyByte (c : UInt8) : Bool :=
  isDigit c || (65 ≤ c && c ≤ 90) || (97 ≤ c && c ≤ 122) || c == 45 || c == 95

/-- Whether a byte stands for itself in a basic string. -/
def isBasicByte (c : UInt8) : Bool :=
  c == 9 || c == 32 || c == 33 || (35 ≤ c && c ≤ 91) || (93 ≤ c && c ≤ 126) || c ≥ 128

/-- Whether a byte may appear in a literal string. -/
def isLiteralByte (c : UInt8) : Bool :=
  c == 9 || (32 ≤ c && c ≤ 38) || (40 ≤ c && c ≤ 126) || c ≥ 128

/-- Skips spaces and tabs. -/
def blanks : Scan Unit := do
  discard (takeRun isBlank)

/-- Skips a comment if one starts here. -/
def comment : Scan Unit := do
  if (← peek) == some 35 then
    advance 1
    discard (takeRun isCommentByte)

/-- Takes a line break (`\n` or `\r\n`); false when none is here. -/
def newline : Scan Bool := do
  match ← peek with
  | some 10 => do advance 1; pure true
  | some 13 => if (← peekAt 1) == some 10 then do advance 2; pure true else pure false
  | _ => pure false

/-- Takes the end of a line: a line break, or nothing at the end of the document. -/
def lineEnd : Scan Bool := do
  if ← newline then pure true else pure (← peek).isNone

/-- The end of a line after a value or header: blanks, a comment, then the line's end. -/
def lineTrailing : Scan Unit := do
  blanks
  comment
  if !(← lineEnd) then hard [.expect (.char '\n'), .expect (.char '#')]

/-- Skips blanks, line breaks and comments, as allowed between array elements. A comment
there must end with a line break: one that runs to the end of the document is a soft
failure where the line break should be. -/
def blankLines : Nat → Scan Unit
  | 0 => pure ()
  | fuel + 1 => do
    blanks
    if (← peek) == some 35 then do
      comment
      if ← newline then blankLines fuel else soft
    else if ← newline then blankLines fuel
    else pure ()

/-- Skips blanks and line breaks (no comments), as after a backslash that ends a line of a
multi-line basic string. -/
def blanksAndBreaks : Nat → Scan Unit
  | 0 => pure ()
  | fuel + 1 => do
    blanks
    if ← newline then blanksAndBreaks fuel else pure ()

/-! ## Strings -/

/-- The text of bytes known to be UTF-8. -/
def textOf (bytes : ByteArray) : String :=
  (String.fromUTF8? bytes).getD ""

/-- The character of a `\u` or `\U` escape with `n` hexadecimal digits. -/
def hexEscape (n : Nat) (label : String) : Scan String := do
  let start ← get
  let digits ← takeRun isHex n
  if digits.size != n then
    set start
    hardAt start [.label label]
  let value := digits.toList.foldl (fun v c =>
    v * 16 + (if isDigit c then c.toNat - 48 else if c ≥ 97 then c.toNat - 87 else c.toNat - 55)) 0
  if value > 0x10FFFF || (0xD800 ≤ value && value ≤ 0xDFFF) then
    hardAt start [.label label, .cause "value is out of range"]
  pure (String.singleton (Char.ofNat value))

/-- Reads an escape after its backslash; none (nothing taken) at the end of the document. -/
def escapeChar : Scan (Option String) := do
  match ← peek with
  | none => pure none
  | some c =>
    advance 1
    match c with
    | 98 => pure (some "\x08")
    | 102 => pure (some "\x0c")
    | 110 => pure (some "\n")
    | 114 => pure (some "\r")
    | 116 => pure (some "\t")
    | 92 => pure (some "\\")
    | 34 => pure (some "\"")
    | 117 => pure (some (← hexEscape 4 "unicode 4-digit hex code"))
    | 85 => pure (some (← hexEscape 8 "unicode 8-digit hex code"))
    | _ => hard ([.label "escape sequence"] ++ "bfnrtuU\\\"".toList.map (fun e => Note.expect (.char e)))

/-- The contents of a basic string, after its opening quote, up to its closing quote. -/
def basicBody : Nat → String → Scan String
  | 0, acc => pure acc
  | fuel + 1, acc => do
    match ← peek with
    | some 34 => do advance 1; pure acc
    | some 92 =>
      let mark ← get
      advance 1
      match ← escapeChar with
      | some s => basicBody fuel (acc ++ s)
      | none => set mark; hard [.label "basic string"]
    | some c =>
      if isBasicByte c then do
        let run ← takeRun isBasicByte
        basicBody fuel (acc ++ textOf run)
      else hard [.label "basic string"]
    | none => hard [.label "basic string"]

/-- A basic string `"…"`; the next byte is its opening quote. -/
def basicString : Scan String := do
  advance 1
  basicBody ((← read).size + 1) ""

/-- A literal string `'…'`; the next byte is its opening quote. -/
def literalString : Scan String := do
  advance 1
  let run ← takeRun isLiteralByte
  if (← peek) == some 39 then advance 1 else hard [.label "literal string"]
  pure (textOf run)

/-- The number of `q` bytes ahead (at most 6). -/
def quoteRun (q : UInt8) : Scan Nat := do
  let b ← read
  let i ← get
  pure (runEnd b (· == q) i 6 - i)

/-- The body of a multi-line string after its opening delimiter (and the line break that
may follow it), up to its closing delimiter of three `q` bytes. A run of one or two `q`
bytes is content, and up to two more may stand before the closing delimiter. Basic
strings (`basic`) have escapes, including a backslash at a line's end, which skips the
following blanks and line breaks. -/
def multilineBody (q : UInt8) (basic : Bool) (label : String) : Nat → String → Scan String
  | 0, acc => pure acc
  | fuel + 1, acc => do
    let plain : UInt8 → Bool := if basic then isBasicByte else isLiteralByte
    match ← peek with
    | some c =>
      if c == q then
        let n ← quoteRun q
        if n ≥ 3 then
          let extra := min (n - 3) 2
          advance (extra + 3)
          pure (acc ++ String.ofList (List.replicate extra (Char.ofNat q.toNat)))
        else
          advance n
          multilineBody q basic label fuel (acc ++ String.ofList (List.replicate n (Char.ofNat q.toNat)))
      else if basic && c == 92 then
        let mark ← get
        advance 1
        -- a backslash before blanks and a line break joins the lines
        let save ← get
        blanks
        if ← newline then
          blanksAndBreaks (← read).size
          multilineBody q basic label fuel acc
        else
          set save
          match ← escapeChar with
          | some s => multilineBody q basic label fuel (acc ++ s)
          | none => set mark; hard [.label label]
      else if ← newline then multilineBody q basic label fuel (acc ++ "\n")
      else if plain c then
        let run ← takeRun (fun d => plain d && d != q)
        multilineBody q basic label fuel (acc ++ textOf run)
      else hard [.label label]
    | none => hard [.label label]

/-- A multi-line string `"""…"""` or `'''…'''`; the delimiter is ahead. -/
def multilineString (q : UInt8) : Scan String := do
  advance 3
  discard newline
  let basic := q == 34
  multilineBody q basic (if basic then "multiline basic string" else "multiline literal string")
    ((← read).size + 1) ""

/-- Any string value: multi-line or not, basic or literal. -/
def stringValue : Scan String := do
  if ← ahead "\"\"\"" then multilineString 34
  else if ← ahead "'''" then multilineString 39
  else if (← peek) == some 34 then basicString
  else literalString

/-! ## Numbers -/

/-- The rest of a run of digits with single underscores between them, after its first
digit; an underscore must be followed by a digit, and `notes` say so when one is not. -/
def digitsWithUnderscores (isD : UInt8 → Bool) (notes : List Note) : Nat → Scan Unit
  | 0 => pure ()
  | fuel + 1 => do
    match ← peek with
    | some 95 =>
      advance 1
      match ← peek with
      | some c => if isD c then do advance 1; digitsWithUnderscores isD notes fuel
                  else hard notes
      | none => hard notes
    | some c => if isD c then do advance 1; digitsWithUnderscores isD notes fuel else pure ()
    | none => pure ()

/-- A decimal integer: an optional sign, then `0` or a non-zero digit followed by digits
and single underscores. Soft failure when no digit follows the sign. -/
def decimalInt : Scan Unit := noting (do
  match ← peek with
  | some 43 | some 45 => advance 1
  | _ => pure ()
  match ← peek with
  | some c =>
    if 49 ≤ c && c ≤ 57 then do
      advance 1
      digitsWithUnderscores isDigit [.expect (.description "digit")] ((← read).size)
    else if c == 48 then advance 1
    else soft
  | none => soft) [.label "integer"]

/-- Digits that may start with zero, with single underscores between them. -/
def zeroPrefixableInt : Scan Unit := do
  match ← peek with
  | some c => if isDigit c then do advance 1; digitsWithUnderscores isDigit [] ((← read).size) else soft
  | none => soft

/-- The text of bytes with underscores left out. -/
def withoutUnderscores (bytes : ByteArray) : String :=
  String.ofList ((textOf bytes).toList.filter (· != '_'))

/-- The value of decimal text `[sign] digits [. digits] [e [sign] digits]`, rounded to the
nearest binary64 value; none when it overflows. -/
def decimalValue (s : String) : Option (Bool × Option Binary64) :=
  let cs := s.toList
  let (negative, cs) := match cs with
    | '-' :: rest => (true, rest)
    | '+' :: rest => (false, rest)
    | _ => (false, cs)
  let intPart := cs.takeWhile Char.isDigit
  let cs := cs.drop intPart.length
  let (fracPart, cs) := match cs with
    | '.' :: rest => (rest.takeWhile Char.isDigit, rest.drop (rest.takeWhile Char.isDigit).length)
    | _ => ([], cs)
  let expPart : Int := match cs with
    | c :: rest =>
      if c == 'e' || c == 'E' then
        match rest with
        | '-' :: ds => -((String.ofList ds).toNat?.getD 0 : Int)
        | '+' :: ds => (String.ofList ds).toNat?.getD 0
        | ds => (String.ofList ds).toNat?.getD 0
      else 0
    | [] => 0
  let digits := (String.ofList (intPart ++ fracPart)).toNat?.getD 0
  some (negative, Binary64.ofScientific digits (expPart - fracPart.length))

/-- A float: a decimal integer part, then an exponent or a fraction (with an optional
exponent); or `inf` or `nan` with an optional sign. -/
def floatValue : Scan Float64 := noting (do
  let start ← get
  let finite ← attempt (do
    decimalInt
    match ← peek with
    | some 101 | some 69 =>
      advance 1
      match ← peek with
      | some 43 | some 45 => advance 1
      | _ => pure ()
      firm zeroPrefixableInt
    | some 46 =>
      advance 1
      firm (noting zeroPrefixableInt [.expect (.description "digit")])
      match ← peek with
      | some 101 | some 69 =>
        advance 1
        match ← peek with
        | some 43 | some 45 => advance 1
        | _ => pure ()
        firm zeroPrefixableInt
      | _ => pure ()
    | _ => soft)
  match finite with
  | some () =>
    let b ← read
    let text := withoutUnderscores (b.extract start (← get))
    match decimalValue text with
    | some (negative, some x) => pure (.finite negative x)
    | some (true, none) => pure (.infinite true)
    | _ => hardAt start
  | none =>
    let negative ← match ← peek with
      | some 43 => do advance 1; pure false
      | some 45 => do advance 1; pure true
      | _ => pure false
    if ← ahead "inf" then do advance 3; pure (.infinite negative)
    else if ← ahead "nan" then do advance 3; pure .nan
    else soft) [.label "floating-point number"]

/-- A prefixed integer in base `base` (`0x`, `0o` or `0b` is ahead), as a signed 64-bit
value. A value out of range is reported at the prefix, without the label. -/
def prefixedInt (base : Nat) (isD : UInt8 → Bool) (label : String) : Scan Int := do
  let start ← get
  let text ← noting (do
    advance 2
    let first ← get
    match ← peek with
    | some c => if isD c then advance 1 else hard
    | none => hard
    firm (digitsWithUnderscores isD [] ((← read).size))
    pure (withoutUnderscores ((← read).extract first (← get)))) [.label label]
  let value := text.toList.foldl (fun v c =>
    v * base + (if c.isDigit then c.toNat - 48 else if c ≥ 'a' then c.toNat - 87 else c.toNat - 55)) 0
  if value ≥ Nat.pow 2 63 then hardAt start [.cause "number too large to fit in target type"]
  pure value

/-- An integer: hexadecimal, octal or binary after its prefix, else decimal. -/
def integerValue : Scan Int := do
  if ← ahead "0x" then prefixedInt 16 isHex "hexadecimal integer"
  else if ← ahead "0o" then prefixedInt 8 (fun c => 48 ≤ c && c ≤ 55) "octal integer"
  else if ← ahead "0b" then prefixedInt 2 (fun c => c == 48 || c == 49) "binary integer"
  else
    let start ← get
    decimalInt
    let b ← read
    let text := withoutUnderscores (b.extract start (← get))
    let negative := text.startsWith "-"
    let magnitude := (String.ofList (text.toList.filter Char.isDigit)).toNat?.getD 0
    if negative then
      if magnitude > Nat.pow 2 63 then hardAt start [.cause "number too small to fit in target type"]
      pure (-(magnitude : Int))
    else
      if magnitude ≥ Nat.pow 2 63 then hardAt start [.cause "number too large to fit in target type"]
      pure magnitude

/-! ## Dates and times -/

/-- Exactly `n` ASCII digits as a number in `[lo, hi]`; a soft failure when the digits are
missing or the number is out of range (the caller decides whether that ends the reading). -/
def fixedDigits (n lo hi : Nat) : Scan Nat := do
  let start ← get
  let ds ← takeRun isDigit n
  if ds.size != n then
    set start
    soft
  let v := ds.toList.foldl (fun v c => v * 10 + (c.toNat - 48)) 0
  if v < lo || v > hi then
    set start
    soft [.cause "value is out of range"]
  pure v

/-- Takes the byte `c`, failing softly when it is not next. -/
def byte (c : UInt8) : Scan Unit := do
  if (← peek) == some c then advance 1 else soft

/-- A time `HH:MM:SS[.fraction]`; hard failure once the hour and colon are read. -/
def partialTime : Scan Unit := do
  discard (fixedDigits 2 0 23)
  byte 58
  firm (do
    discard (fixedDigits 2 0 59)
    byte 58
    discard (fixedDigits 2 0 60)
    discard (attempt (do
      byte 46
      let ds ← takeRun isDigit
      if ds.size == 0 then soft)))

/-- Whether a year of the Gregorian calendar has a 29th of February. -/
def isLeapYear (year : Nat) : Bool :=
  year % 4 == 0 && (year % 100 != 0 || year % 400 == 0)

/-- The number of days of a month (1 to 12) in a year. -/
def monthLength (year month : Nat) : Nat :=
  if month == 2 then (if isLeapYear year then 29 else 28)
  else if month == 4 || month == 6 || month == 9 || month == 11 then 30
  else 31

/-- A date, a date with a time and an optional offset, or a time alone. The day must exist
in its month: a 31st of November fails at the day. -/
def datetimeValue : Scan Unit := noting (do
  let year ← attempt (do
    let year ← fixedDigits 4 0 9999
    byte 45
    pure year)
  match year with
  | some year =>
    firm (do
      let month ← fixedDigits 2 1 12
      byte 45
      let dayStart ← get
      let day ← fixedDigits 2 1 31
      if monthLength year month < day then
        set dayStart
        soft [.cause "value is out of range"])
    let withTime ← attempt (do
      match ← peek with
      | some 84 | some 116 | some 32 => advance 1
      | _ => soft
      partialTime)
    if withTime.isSome then
      match ← peek with
      | some 90 | some 122 => advance 1
      | some 43 | some 45 =>
        noting (do
          advance 1
          firm (do
            discard (fixedDigits 2 0 23)
            byte 58
            discard (fixedDigits 2 0 59))) [.label "time offset"]
      | _ => pure ()
  | none => partialTime) [.label "date-time"]

end TomlFormat

end ChatBot
