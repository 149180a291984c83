import ChatBot.Text.CharClass
import ChatBot.Text.Lower
import ChatBot.Text.Numeral

/-!
# Duration tokens

A duration is a whole number of seconds, written in one token after ASCII lowercasing:

* a number of ASCII digits alone is that many seconds;
* otherwise the token is one or more segments, each a run of decimal digits followed by a
  unit letter: `s` (1 second), `m` (60), `h` (3600), `d` (86400) or `w` (604800).

The digit runs of the second form are matched as Unicode decimal digits but read as ASCII
numbers, so `１h` has a unit and yet denotes nothing. All arithmetic is checked: a value of
2^64 seconds or more, in a segment, a product or the total, makes the token denote nothing.
-/

namespace ChatBot.Duration

/-- Seconds per unit letter. -/
def unitSeconds : Char → Option Nat
  | 's' => some 1
  | 'm' => some 60
  | 'h' => some 3600
  | 'd' => some 86400
  | 'w' => some 604800
  | _ => none

/-- The segments of `rest`, where `digits` holds the digits of the segment being read, last
digit first. Fails unless `rest` ends right after a unit letter. -/
def segmentsFrom (digits : List Char) : List Char → Option (List (List Char × Char))
  | [] => if digits.isEmpty then some [] else none
  | c :: rest =>
    if Text.isDecimalDigit c then segmentsFrom (c :: digits) rest
    else if (unitSeconds c).isSome && !digits.isEmpty then
      (segmentsFrom [] rest).map fun more => (digits.reverse, c) :: more
    else none

/-- The segments of a token written with units, or none when the token is not such a
sequence of at least one segment. -/
def segments (cs : List Char) : Option (List (List Char × Char)) :=
  match segmentsFrom [] cs with
  | some (first :: more) => some (first :: more)
  | _ => none

/-- Whether a token is written with units (after ASCII lowercasing). -/
def hasUnit (token : String) : Bool :=
  (segments (Text.lowerAscii token).toList).isSome

/-- Adds the seconds of one segment to `total`, failing on any value of 2^64 or more. -/
def addSegment (total : Nat) (segment : List Char × Char) : Option Nat := do
  let amount ← Text.readDigits segment.1
  let size ← unitSeconds segment.2
  if amount < Nat.pow 2 64 && amount * size < Nat.pow 2 64 && total + amount * size < Nat.pow 2 64 then
    some (total + amount * size)
  else none

/-- The seconds a token denotes, if any. -/
def parseToken (token : String) : Option UInt64 :=
  let cs := (Text.lowerAscii token).toList
  match Text.readDigits cs with
  | some n => if n < Nat.pow 2 64 then some n.toUInt64 else none
  | none =>
    match segments cs with
    | some segs => (segs.foldlM addSegment 0).map Nat.toUInt64
    | none => none

example : parseToken "1H30m" = some 5400 ∧ parseToken "90" = some 90 ∧
    parseToken "1x" = none ∧ hasUnit "1h\n" = false ∧
    parseToken "18446744073709551615s" = some 18446744073709551615 := by
  decide +kernel

end ChatBot.Duration
