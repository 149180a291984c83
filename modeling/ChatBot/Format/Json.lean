import ChatBot.Format.Shape
import ChatBot.Format.Binary64

/-!
# JSON documents

A JSON document is read in one pass, left to right, against a shape. The reader looks at
the next byte to decide what comes and fails at the first thing the shape cannot accept,
so a document that breaks off after a misfit value fails on the misfit, not on the break.

Failures name a line and a column. Lines count from 1. The column counts bytes of the line:
a failure *at* a byte (one that was looked at but not taken) reports the column of that
byte counting from 1, and a failure *after* something reports the number of bytes taken on
the line so far. Type failures inside a value are reported after the value; failures of a
whole record (a missing or repeated field) are reported after its closing brace.
-/

namespace ChatBot

namespace JsonFormat

/-- Causes of a syntax failure. -/
inductive Problem where
  | eofValue | eofList | eofObject | eofString
  | expectedColon | expectedListEnd | expectedObjectEnd
  | expectedIdent | expectedValue
  | invalidEscape | invalidNumber | numberOutOfRange
  | controlCharacter | keyMustBeString | loneSurrogate
  | trailingComma | trailingCharacters | unexpectedEndOfHex
deriving DecidableEq, Repr, Inhabited

/-- The text of a syntax failure. -/
def Problem.text : Problem → String
  | eofValue => "EOF while parsing a value"
  | eofList => "EOF while parsing a list"
  | eofObject => "EOF while parsing an object"
  | eofString => "EOF while parsing a string"
  | expectedColon => "expected \x60:\x60"
  | expectedListEnd => "expected \x60,\x60 or \x60]\x60"
  | expectedObjectEnd => "expected \x60,\x60 or \x60\x7d\x60"
  | expectedIdent => "expected ident"
  | expectedValue => "expected value"
  | invalidEscape => "invalid escape"
  | invalidNumber => "invalid number"
  | numberOutOfRange => "number out of range"
  | controlCharacter => "control character (\\u0000-\\u001F) found while parsing a string"
  | keyMustBeString => "key must be a string"
  | loneSurrogate => "lone leading surrogate in hex escape"
  | trailingComma => "trailing comma"
  | trailingCharacters => "trailing characters"
  | unexpectedEndOfHex => "unexpected end of hex escape"

/-- A failure: its text, and its line and column once known. -/
structure Failure where
  text : String
  place : Option (Nat × Nat) := none
deriving DecidableEq, Repr, Inhabited

/-- The failure as shown: the text, then the line and column. -/
def Failure.render (f : Failure) : String :=
  match f.place with
  | some (line, column) => f.text ++ " at line " ++ toString line ++ " column " ++ toString column
  | none => f.text

/-- The line and column of the byte offset `i`: the line of the last newline before `i`
plus one, and the number of bytes from the start of that line to `i`. -/
def placeOf (b : ByteArray) (i : Nat) : Nat × Nat :=
  let (line, start) := ((b.toList.take i).zipIdx).foldl
    (fun (line, start) (c, k) => if c == 10 then (line + 1, k + 1) else (line, start)) (1, 0)
  (line, i - start)

/-- A reading step over the document's bytes; the state is the offset of the next byte,
kept when a step fails, since what follows a failure may still move past bytes. -/
abbrev Scan := ReaderT ByteArray (ExceptT Failure (StateM Nat))

variable {α : Type}

/-- The next byte, not taken. -/
def peek : Scan (Option UInt8) := do
  pure (← read)[← get]?

/-- Takes the next byte. -/
def eat : Scan Unit :=
  modify (· + 1)

/-- Fails with `p` at the byte offset `i`. -/
def failAt (i : Nat) (p : Problem) : Scan α := do
  throw { text := p.text, place := some (placeOf (← read) i) }

/-- Fails with `p` after the bytes taken. -/
def fail (p : Problem) : Scan α := do
  failAt (← get) p

/-- Fails with `p` at the next byte (or at the end). -/
def failAhead (p : Problem) : Scan α := do
  failAt (min (← read).size ((← get) + 1)) p

/-- Gives a failure without a place the place after the bytes taken. -/
def settle (f : Failure) : Scan Failure := do
  match f.place with
  | some _ => pure f
  | none => pure { f with place := some (placeOf (← read) (← get)) }

/-- Runs `x`, placing any unplaced failure after the bytes taken when it fails. -/
def settled (x : Scan α) : Scan α :=
  tryCatch x fun f => do throw (← settle f)

/-- Whether `c` is JSON whitespace. -/
def isBlank (c : UInt8) : Bool :=
  c == 32 || c == 10 || c == 9 || c == 13

/-- The offset of the first non-blank byte at or after `i`. -/
def blankEnd (b : ByteArray) (i : Nat) : Nat :=
  if h : i < b.size then
    if isBlank b[i] then blankEnd b (i + 1) else i
  else i
termination_by b.size - i

/-- Skips whitespace and shows the next byte. -/
def skipBlank : Scan (Option UInt8) := do
  set (blankEnd (← read) (← get))
  peek

/-- Takes the bytes of the rest of a literal (`ull`, `rue`, `alse`). -/
def ident : List UInt8 → Scan Unit
  | [] => pure ()
  | c :: rest => do
    match ← peek with
    | none => fail .eofValue
    | some d =>
      eat
      if d != c then fail .expectedIdent else ident rest

/-! ## Strings -/

/-- The value of a hexadecimal digit. -/
def hexValue (c : UInt8) : Option Nat :=
  if 48 ≤ c && c ≤ 57 then some (c.toNat - 48)
  else if 97 ≤ c && c ≤ 102 then some (c.toNat - 87)
  else if 65 ≤ c && c ≤ 70 then some (c.toNat - 55)
  else none

/-- The four hexadecimal digits at `i` as a number, with the offset after them. -/
def hexFour (b : ByteArray) (i : Nat) : Except (Problem × Nat) (Nat × Nat) :=
  if i + 4 > b.size then .error (.eofString, b.size) else
  let digits := [b[i]?, b[i + 1]?, b[i + 2]?, b[i + 3]?].map (·.bind hexValue)
  match digits with
  | [some a, some c, some d, some e] => .ok (((a * 16 + c) * 16 + d) * 16 + e, i + 4)
  | _ => .error (.invalidEscape, i + 4)

/-- The UTF-8 bytes of a code point. -/
def utf8 (n : Nat) : ByteArray :=
  (String.singleton (Char.ofNat n)).toUTF8

/-- Reads a `\u` escape whose digits start at `i` (surrogate pairs included); returns its
bytes and the offset after it. -/
def unicodeEscape (b : ByteArray) (i : Nat) : Except (Problem × Nat) (ByteArray × Nat) := do
  let (n, i) ← hexFour b i
  if 0xDC00 ≤ n && n ≤ 0xDFFF then throw (.loneSurrogate, i)
  if n < 0xD800 || n > 0xDBFF then return (utf8 n, i)
  match b[i]? with
  | none => throw (.eofString, b.size)
  | some c => if c != 92 then throw (.unexpectedEndOfHex, i + 1)
  match b[i + 1]? with
  | none => throw (.eofString, b.size)
  | some c => if c != 117 then throw (.unexpectedEndOfHex, i + 2)
  let (n2, i) ← hexFour b (i + 2)
  if n2 < 0xDC00 || n2 > 0xDFFF then throw (.loneSurrogate, i)
  return (utf8 ((((n - 0xD800) * 1024) ||| (n2 - 0xDC00)) + 0x10000), i)

/-- The bytes of one escape whose letter is at `i`, with the offset after it. -/
def escape (b : ByteArray) (i : Nat) : Except (Problem × Nat) (ByteArray × Nat) :=
  match b[i]? with
  | none => .error (.eofString, b.size)
  | some c =>
    let one (d : UInt8) : Except (Problem × Nat) (ByteArray × Nat) := .ok (ByteArray.mk #[d], i + 1)
    if c == 34 || c == 92 || c == 47 then one c
    else if c == 98 then one 8
    else if c == 102 then one 12
    else if c == 110 then one 10
    else if c == 114 then one 13
    else if c == 116 then one 9
    else if c == 117 then unicodeEscape b (i + 1)
    else .error (.invalidEscape, i + 1)

/-- The contents of a string whose opening quote is before `i`, decoded, with the offset
after the closing quote. `keep` is false when the string is only skipped: escapes are then
checked for their form only. -/
def stringFrom (b : ByteArray) (keep : Bool) (i : Nat) (acc : ByteArray) :
    Except (Problem × Nat) (ByteArray × Nat) :=
  if h : i < b.size then
    let c := b[i]
    if c == 34 then .ok (acc, i + 1)
    else if c == 92 then
      let step : Except (Problem × Nat) (ByteArray × Nat) :=
        if keep then escape b (i + 1)
        else match b[i + 1]? with
          | some 117 => (hexFour b (i + 2)).map fun (_, j) => (ByteArray.empty, j)
          | _ => (escape b (i + 1)).map fun (_, j) => (ByteArray.empty, j)
      match step with
      | .error e => .error e
      | .ok (bytes, j) =>
        if j > i then stringFrom b keep j (acc ++ bytes) else .error (.eofString, b.size)
    else if c < 32 then .error (.controlCharacter, if keep then i + 1 else i)
    else stringFrom b keep (i + 1) (acc.push c)
  else .error (.eofString, b.size)
termination_by b.size - i

/-- Reads the rest of a string after its opening quote. -/
def string (keep : Bool) : Scan String := do
  match stringFrom (← read) keep (← get) ByteArray.empty with
  | .ok (bytes, j) =>
    set j
    pure ((String.fromUTF8? bytes).getD "")
  | .error (p, j) => failAt j p

/-! ## Numbers -/

/-- The offset after the ASCII digits at or after `i`. -/
def digitsEnd (b : ByteArray) (i : Nat) : Nat :=
  if h : i < b.size then
    if 48 ≤ b[i] && b[i] ≤ 57 then digitsEnd b (i + 1) else i
  else i
termination_by b.size - i

/-- The value of the ASCII digits of `b` from `i` to `j`. -/
def digitsValue (b : ByteArray) (i j : Nat) : Nat :=
  ((b.toList.drop i).take (j - i)).foldl (fun n c => n * 10 + (c.toNat - 48)) 0

/-- Whether the next byte is an ASCII digit. -/
def digitAhead : Scan Bool := do
  match ← peek with
  | some c => pure (48 ≤ c && c ≤ 57)
  | none => pure false

/-- Powers of ten as binary64 values, as the number reader scales by them. -/
def powTen (k : Nat) : Binary64 :=
  (Binary64.ofNat (Nat.pow 10 k)).getD .zero

/-- The number `significand × 10^exponent` computed as the reader does: the significand
rounded, then multiplied or divided by a rounded power of ten (at most `10^308` at a time);
too large a result fails. -/
def fromParts (negative : Bool) (significand : Nat) (exponent : Int) : Scan Float64 := do
  let base := (Binary64.ofNat significand).getD .zero
  let rec scale : Nat → Binary64 → Int → Scan Binary64
    | 0, f, _ => pure f
    | fuel + 1, f, e =>
      if e.natAbs ≤ 308 then
        if e ≥ 0 then
          match f.mul (powTen e.toNat) with
          | some g => pure g
          | none => fail .numberOutOfRange
        else pure ((f.div (powTen e.natAbs)).getD .zero)
      else if f.mantissa = 0 then pure f
      else if e ≥ 0 then fail .numberOutOfRange
      else scale fuel ((f.div (powTen 308)).getD .zero) (e + 308)
  pure (.finite negative (← scale 8 base exponent))

/-- The index of the digit at which a number read from `ds` after the leading value `acc`
first exceeds `2^31 - 1`. -/
def overflowAt (acc : Nat) : List UInt8 → Nat → Option Nat
  | [], _ => none
  | d :: rest, k =>
    let acc := acc * 10 + (d.toNat - 48)
    if acc > 2147483647 then some k else overflowAt acc rest (k + 1)

/-- Reads an exponent after `e` or `E` and completes the number. -/
def exponentPart (negative : Bool) (significand : Nat) (start : Int) : Scan Float64 := do
  eat
  let positive ← match ← peek with
    | some 43 => do eat; pure true
    | some 45 => do eat; pure false
    | _ => pure true
  match ← peek with
  | none => fail .eofValue
  | some c =>
    eat
    if !(48 ≤ c && c ≤ 57) then fail .invalidNumber else
    let b ← read
    let i ← get
    let j := digitsEnd b i
    let ds := (b.toList.drop i).take (j - i)
    -- the exponent is read while it fits 31 bits; the digit that overflows ends the number
    match overflowAt (c.toNat - 48) ds 0 with
    | some k =>
      set (i + k + 1)
      if significand ≠ 0 && positive then fail .numberOutOfRange
      else
        set j
        pure (.finite negative .zero)
    | none =>
      set j
      let exp := (c.toNat - 48) * Nat.pow 10 (j - i) + digitsValue b i j
      fromParts negative significand (if positive then start + exp else start - exp)

/-- Reads the fraction after a decimal point and completes the number. -/
def fractionPart (negative : Bool) (significand : Nat) (start : Int) : Scan Float64 := do
  eat
  let b ← read
  let i ← get
  let j := digitsEnd b i
  if j = i then
    match ← peek with
    | some _ => failAhead .invalidNumber
    | none => failAhead .eofValue
  else
  -- digits beyond the 64-bit significand are dropped
  let (sig, used) := ((b.toList.drop i).take (j - i)).foldl
    (fun (s, k) c => if s * 10 + (c.toNat - 48) < Nat.pow 2 64 ∧ k = 0 then (s * 10 + (c.toNat - 48), 0) else (s, k + 1))
    (significand, 0)
  let taken := j - i - used
  set j
  match ← peek with
  | some 101 | some 69 => exponentPart negative sig (start - taken)
  | _ => fromParts negative sig (start - taken)

/-- Completes a number whose integer digits gave `significand × 10^exponent`: a fraction
or an exponent makes it a float; otherwise it is an integer (a negative one that does not
fit 64 bits, and minus zero, become floats). -/
def numberTail (negative : Bool) (significand : Nat) (exponent : Int) : Scan Numeral := do
  match ← peek with
  | some 46 => pure (.float (← fractionPart negative significand exponent).scientific)
  | some 101 | some 69 => pure (.float (← exponentPart negative significand exponent).scientific)
  | _ =>
    if exponent ≠ 0 then pure (.float (← fromParts negative significand exponent).scientific)
    else if !negative then pure (.unsigned significand)
    else if significand = 0 || significand > Nat.pow 2 63 then
      pure (.float (Float64.finite true ((Binary64.ofNat significand).getD .zero)).scientific)
    else pure (.signed (-(significand : Int)))

/-- The significand kept from a run of digits, with the number of digits dropped because
the significand would pass 64 bits. -/
def keepDigits (start : Nat) (ds : List UInt8) : Nat × Nat :=
  ds.foldl
    (fun (acc : Nat × Nat) (d : UInt8) =>
      if acc.2 == 0 && acc.1 * 10 + (d.toNat - 48) < Nat.pow 2 64 then (acc.1 * 10 + (d.toNat - 48), 0)
      else (acc.1, acc.2 + 1))
    (start, 0)

/-- Reads a number after its optional minus sign. -/
def number (negative : Bool) : Scan Numeral := do
  match ← peek with
  | none => fail .eofValue
  | some c =>
    eat
    if c == 48 then
      if ← digitAhead then failAhead .invalidNumber else numberTail negative 0 0
    else if 49 ≤ c && c ≤ 57 then
      let b ← read
      let i ← get
      let j := digitsEnd b i
      let (sig, extra) := keepDigits (c.toNat - 48) ((b.toList.drop i).take (j - i))
      set j
      numberTail negative sig extra
    else fail .invalidNumber

/-- Skips a number after its optional minus sign, checking its form only. -/
def skipNumber : Scan Unit := do
  match ← peek with
  | some 48 =>
    eat
    if ← digitAhead then failAhead .invalidNumber
  | some c =>
    eat
    if 49 ≤ c && c ≤ 57 then set (digitsEnd (← read) (← get)) else fail .invalidNumber
  | none => fail .invalidNumber
  if (← peek) == some 46 then
    eat
    if !(← digitAhead) then failAhead .invalidNumber
    set (digitsEnd (← read) (← get))
  match ← peek with
  | some 101 | some 69 =>
    eat
    match ← peek with
    | some 43 | some 45 => eat
    | _ => pure ()
    match ← peek with
    | some c =>
      eat
      if !(48 ≤ c && c ≤ 57) then fail .invalidNumber
      set (digitsEnd (← read) (← get))
    | none => fail .invalidNumber
  | _ => pure ()

/-! ## Values -/

/-- The failure for a value that does not have the expected type: what the value is,
read to its end, or the syntax failure met while reading it. -/
def misfit (expected : String) : Scan α := do
  let found ← match (← peek).getD 0 with
    | 110 => do eat; ident [117, 108, 108]; pure (Found.other "null")
    | 116 => do eat; ident [114, 117, 101]; pure (Found.flag true)
    | 102 => do eat; ident [97, 108, 115, 101]; pure (Found.flag false)
    | 45 => do eat; pure (Found.number (← number true))
    | 34 => do eat; pure (Found.text (← string true))
    | 91 => pure Found.list
    | 123 => pure Found.map
    | c => if 48 ≤ c && c ≤ 57 then do pure (Found.number (← number false))
           else failAhead .expectedValue
  throw (← settle { text := invalidType found expected })

/-- Skips one scalar, or opens a list or object and returns its opening byte. -/
def skipStart : Scan (Option UInt8) := do
  match ← skipBlank with
  | none => failAhead .eofValue
  | some 110 => do eat; ident [117, 108, 108]; pure none
  | some 116 => do eat; ident [114, 117, 101]; pure none
  | some 102 => do eat; ident [97, 108, 115, 101]; pure none
  | some 45 => do eat; skipNumber; pure none
  | some 34 => do eat; discard (string false); pure none
  | some 91 => do eat; pure (some 91)
  | some 123 => do eat; pure (some 123)
  | some c => if 48 ≤ c && c ≤ 57 then do skipNumber; pure none else failAhead .expectedValue

/-- After an element of the container `frame` (or right after its opening, when
`acceptComma` is false): takes the comma before the next element, or closes containers
while their closing byte follows. Returns the container that expects an element next, with
the containers around it, or none when the outermost one closed. -/
def closeContainers : Nat → UInt8 → Bool → List UInt8 → Scan (Option (UInt8 × List UInt8))
  | 0, _, _, _ => pure none
  | fuel + 1, frame, acceptComma, outer => do
    let closing : UInt8 := if frame == 91 then 93 else 125
    match ← skipBlank with
    | some c =>
      if c == 44 && acceptComma then do eat; pure (some (frame, outer))
      else if c == closing then do
        eat
        match outer with
        | [] => pure none
        | f :: rest => closeContainers fuel f true rest
      else if acceptComma then
        failAhead (if frame == 91 then .expectedListEnd else .expectedObjectEnd)
      else pure (some (frame, outer))
    | none => failAhead (if frame == 91 then .eofList else .eofObject)

/-- Skips the key and colon that come before an object's element. -/
def skipKey : Scan Unit := do
  match ← skipBlank with
  | some 34 => do eat; discard (string false)
  | some _ => failAhead .keyMustBeString
  | none => failAhead .eofObject
  match ← skipBlank with
  | some 58 => eat
  | some _ => failAhead .expectedColon
  | none => failAhead .eofObject

/-- Skips elements until the containers on `stack` (innermost first) have all closed. -/
def skipInside : Nat → List UInt8 → Scan Unit
  | 0, _ => pure ()
  | fuel + 1, stack => do
    let opened ← skipStart
    let next ← match opened, stack with
      | some frame, _ => closeContainers fuel frame false stack
      | none, [] => pure none
      | none, f :: rest => closeContainers fuel f true rest
    match next with
    | none => pure ()
    | some (frame, outer) =>
      if frame == 123 then skipKey
      skipInside fuel (frame :: outer)

/-- Skips one value of any form, checking its syntax. -/
def skipValue : Scan Unit := do
  skipInside ((← read).size + 2) []

/-! ## Reading against a shape -/

/-- Runs `body`, then `finish` even when `body` failed; the first failure wins. -/
def closing (body : Scan α) (finish : Scan Unit) : Scan α := do
  let r ← tryCatch (Except.ok <$> body) (fun f => pure (Except.error f))
  let e ← tryCatch (Except.ok <$> finish) (fun f => pure (Except.error f))
  match r, e with
  | .ok a, .ok () => pure a
  | .error f, _ => throw f
  | .ok _, .error f => throw f

/-- Closes a list: its closing bracket must follow. -/
def endList : Scan Unit := do
  match ← skipBlank with
  | some 93 => eat
  | some 44 =>
    eat
    match ← skipBlank with
    | some 93 => failAhead .trailingComma
    | _ => failAhead .trailingCharacters
  | some _ => failAhead .trailingCharacters
  | none => failAhead .eofList

/-- Closes an object: its closing brace must follow. -/
def endObject : Scan Unit := do
  match ← skipBlank with
  | some 125 => eat
  | some 44 => failAhead .trailingComma
  | some _ => failAhead .trailingCharacters
  | none => failAhead .eofObject

/-- Whether another element of a list follows (taking the comma before it). -/
def moreItems (first : Bool) : Scan Bool := do
  let check (c : Option UInt8) : Scan Bool :=
    match c with
    | some 93 => failAhead .trailingComma
    | some _ => pure true
    | none => failAhead .eofValue
  match ← skipBlank with
  | some 93 => pure false
  | some 44 => if first then check (some 44) else do eat; check (← skipBlank)
  | some c => if first then check (some c) else failAhead .expectedListEnd
  | none => failAhead .eofList

/-- The next key of an object (taking the comma before it), or none at the closing brace. -/
def nextKey (first : Bool) : Scan (Option String) := do
  let check (c : Option UInt8) : Scan (Option String) :=
    match c with
    | some 34 => do eat; pure (some (← string true))
    | some 125 => failAhead .trailingComma
    | some _ => failAhead .keyMustBeString
    | none => failAhead .eofValue
  match ← skipBlank with
  | some 125 => pure none
  | some 44 => if first then check (some 44) else do eat; check (← skipBlank)
  | some c => if first then check (some c) else failAhead .expectedObjectEnd
  | none => failAhead .eofObject

/-- Takes the colon between a key and its value. -/
def colon : Scan Unit := do
  match ← skipBlank with
  | some 58 => eat
  | some _ => failAhead .expectedColon
  | none => failAhead .eofObject

/-- The elements of a list, each read by `elem`. -/
def listItems (elem : Scan Datum) : Nat → Bool → List Datum → Scan (List Datum)
  | 0, _, acc => pure acc
  | fuel + 1, first, acc => do
    if ← moreItems first then listItems elem fuel false (acc ++ [(← elem)])
    else pure acc

/-- A record written as a list: its fields in order, each read by `readField`. A list that
ends early leaves the remaining fields to their defaults in a lenient record and fails in a
strict one. -/
def recordItems (readField : Shape → Scan Datum) (name : String) (count : Nat) (lenient : Bool) :
    Nat → List (String × Shape) → Bool → List (String × Datum) → Scan Datum
  | _, [], _, acc => pure (.record acc)
  | k, (n, shape) :: rest, first, acc => do
    if ← moreItems first then
      recordItems readField name count lenient (k + 1) rest false (acc ++ [(n, ← readField shape)])
    else if lenient then
      recordItems readField name count lenient (k + 1) rest false (acc ++ [(n, shape.default)])
    else
      throw { text := "invalid length " ++ toString k ++ ", expected struct " ++ name ++ " with "
        ++ toString count ++ (if count = 1 then " element" else " elements") }

/-- A record written as an object: each known key's value read by `readField`, other keys
skipped; a key given twice fails. -/
def recordEntries (readField : Shape → Scan Datum) (fields : List (String × Shape)) :
    Nat → Bool → List (String × Datum) → Scan (List (String × Datum))
  | 0, _, acc => pure acc
  | fuel + 1, first, acc => do
    match ← nextKey first with
    | none => pure acc
    | some key =>
      match fields.lookup key with
      | some shape =>
        if (acc.lookup key).isSome then throw { text := duplicateField key }
        colon
        let v ← readField shape
        recordEntries readField fields fuel false (acc ++ [(key, v)])
      | none =>
        colon
        skipValue
        recordEntries readField fields fuel false acc

/-- The record's fields in declared order from the entries found; a missing field takes its
default in a lenient record and fails in a strict one. -/
def completeRecord (fields : List (String × Shape)) (lenient : Bool)
    (found : List (String × Datum)) : Scan Datum :=
  match Shape.complete fields lenient found with
  | .ok out => pure (.record out)
  | .error text => throw { text := text }

/-- Reads a string naming one of `names`. -/
def choiceName (names : List String) (expected : String) : Scan String := settled do
  match ← skipBlank with
  | none => failAhead .eofValue
  | some 34 =>
    eat
    let s ← string true
    if names.contains s then pure s else throw { text := unknownVariant s names }
  | some _ => misfit expected

/-- Reads a value of the given shape; `depth` bounds the nesting of lists and records. -/
def readShape : Nat → Shape → Scan Datum
  | 0, _ => throw { text := "recursion limit exceeded" }
  | depth + 1, shape => do
    let room := (← read).size + 1
    match shape with
    | .text => settled do
      match ← skipBlank with
      | none => failAhead .eofValue
      | some 34 => do eat; pure (.text (← string true))
      | some _ => misfit "a string"
    | .flag => settled do
      match ← skipBlank with
      | none => failAhead .eofValue
      | some 116 => do eat; ident [114, 117, 101]; pure (.flag true)
      | some 102 => do eat; ident [97, 108, 115, 101]; pure (.flag false)
      | some _ => misfit "a boolean"
    | .optional inner => do
      match ← skipBlank with
      | some 110 => do eat; ident [117, 108, 108]; pure .nothing
      | _ => pure (.just (← readShape depth inner))
    | .list item => settled do
      match ← skipBlank with
      | none => failAhead .eofValue
      | some 91 => do
        eat
        closing (do pure (.list (← listItems (readShape depth item) room true []))) endList
      | some _ => misfit "a sequence"
    | .record name fields lenient => settled do
      match ← skipBlank with
      | none => failAhead .eofValue
      | some 91 => do
        eat
        closing (recordItems (readShape depth) name fields.length lenient 0 fields true []) endList
      | some 123 => do
        eat
        closing (do completeRecord fields lenient (← recordEntries (readShape depth) fields room true []))
          endObject
      | some _ => misfit ("struct " ++ name)
    | .choice _ names => do
      match ← skipBlank with
      | some 123 => do
        eat
        let n ← choiceName names "variant identifier"
        colon
        settled do
          match ← skipBlank with
          | none => failAhead .eofValue
          | some 110 => do eat; ident [117, 108, 108]
          | some _ => misfit "unit"
        match ← skipBlank with
        | some 125 => do eat; pure (.choice n)
        | some _ => fail .expectedValue
        | none => fail .eofObject
      | some 34 => do pure (.choice (← choiceName names "variant identifier"))
      | some _ => failAhead .expectedValue
      | none => failAhead .eofValue

/-- Reads a whole document against a shape: the value, then nothing but whitespace. -/
def readDocument (shape : Shape) : Scan Datum := do
  let d ← readShape 128 shape
  match ← skipBlank with
  | some _ => failAhead .trailingCharacters
  | none => pure d

/-- The datum a JSON text holds for a shape, or the failure text. -/
def parse (shape : Shape) (text : String) : Except String Datum :=
  match ((readDocument shape).run text.toUTF8).run.run 0 with
  | (.ok d, _) => .ok d
  | (.error f, _) => .error f.render

/-! ## Writing -/

/-- A character as it stands inside a JSON string: a quote, a backslash or a control
character escaped, any other character as itself. -/
def escapeChar (c : Char) : String :=
  let hex := "0123456789abcdef".toList
  if c == '"' then "\\\"" else if c == '\\' then "\\\\"
  else if c == '\n' then "\\n" else if c == '\r' then "\\r" else if c == '\t' then "\\t"
  else if c.toNat == 8 then "\\b" else if c.toNat == 12 then "\\f"
  else if c.toNat < 32 then
    "\\u00" ++ String.singleton (hex.getD (c.toNat / 16) '0') ++ String.singleton (hex.getD (c.toNat % 16) '0')
  else String.singleton c

/-- A string as a JSON string: quotes, backslashes and control characters escaped. -/
def quote (s : String) : String :=
  "\"" ++ String.join (s.toList.map escapeChar) ++ "\""

end JsonFormat

end ChatBot
