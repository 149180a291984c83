/-!
# Decimal numerals

Numbers in command lines, mentions and configuration values are written with the ASCII
digits `0` to `9` only. Two readings are used:

* `readU64`: an optional `+`, then at least one digit, with a value below 2^64. Ids of
  users, roles, channels and bots are read this way, so `+5` and `007` are ids and `-1`
  is not.
* `readDigitsI64`: digits only, no sign, with a value below 2^63. Integer arguments are
  read this way.
-/

namespace ChatBot.Text

/-- Whether a character is one of the ASCII digits. -/
def isAsciiDigit (c : Char) : Bool :=
  '0' ≤ c && c ≤ '9'

/-- The value of a list of ASCII digits, most significant first. -/
def digitsValue (cs : List Char) : Nat :=
  cs.foldl (fun n c => 10 * n + (c.toNat - '0'.toNat)) 0

/-- The value of a non-empty list of ASCII digits, or none when the list is empty or holds
anything else. -/
def readDigits (cs : List Char) : Option Nat :=
  if !cs.isEmpty && cs.all isAsciiDigit then some (digitsValue cs) else none

/-- An unsigned 64-bit integer: an optional plus sign, then ASCII digits, below 2^64. -/
def readU64 (s : String) : Option UInt64 :=
  let digits := match s.toList with
    | '+' :: rest => rest
    | cs => cs
  match readDigits digits with
  | some n => if n < Nat.pow 2 64 then some n.toUInt64 else none
  | none => none

/-- A signed 64-bit integer written with ASCII digits only, so it is never negative. -/
def readDigitsI64 (s : String) : Option Int64 :=
  match readDigits s.toList with
  | some n => if n < Nat.pow 2 63 then some (Int64.ofNat n) else none
  | none => none

/-- The decimal text of a natural number. -/
def decimal (n : Nat) : String :=
  String.ofList (Nat.toDigits 10 n)

/-- The decimal text of an integer, with a minus sign when negative. -/
def decimalInt (i : Int) : String :=
  if i < 0 then "-" ++ decimal i.natAbs else decimal i.natAbs

example : readU64 "+5" = some 5 ∧ readU64 "-1" = none ∧ readU64 "+" = none ∧
    readU64 "18446744073709551616" = none ∧ readDigitsI64 "007" = some 7 ∧
    readDigitsI64 "+5" = none := by
  decide +kernel

end ChatBot.Text
