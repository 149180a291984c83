import ChatBot.Text.CaseClass
import ChatBot.Text.LowerTable

/-!
# Lowercase

Names of arguments and commands compare after full Unicode lowercasing: every character
takes its lowercase mapping, U+0130 (capital I with dot) becomes `i` followed by a
combining dot above, and a capital sigma becomes the final form `ς` exactly when a cased
letter precedes it and none follows it, case-ignorable characters skipped on both sides.
So `ΣΑΣ` lowers to `σας`.

Durations and kind names compare with the ASCII rules only: `lowerAscii` changes the 26
capital Latin letters and nothing else.
-/

namespace ChatBot.Text

/-- The last of `runs` with index in `[lo, hi)` that starts at or below `n`, or `found`
when there is none. The runs are sorted by their first code point. -/
def runAtOrBelow (runs : Array CaseRun) (n : Nat) (lo hi : Nat) (found : Option CaseRun) :
    Option CaseRun :=
  if lo < hi then
    let mid := (lo + hi) / 2
    match runs[mid]? with
    | none => found
    | some r =>
      if r.first ≤ n then runAtOrBelow runs n (mid + 1) hi (some r)
      else runAtOrBelow runs n lo mid found
  else found
termination_by hi - lo

/-- The lowercase mapping of a single character, with no context. A character outside
every run is its own lowercase. -/
def lowerChar (c : Char) : List Char :=
  if c.val < 0x80 then
    [if 'A' ≤ c && c ≤ 'Z' then Char.ofNat (c.toNat + 32) else c]
  else if c.val == 0x130 then
    ['i', Char.ofNat 0x307]
  else
    let n := c.toNat
    match runAtOrBelow lowerRuns n 0 lowerRuns.size none with
    | some r =>
      let k := n - r.first
      if k % r.stride == 0 && k / r.stride < r.count then
        [Char.ofNat ((n : Int) + r.shift).toNat]
      else [c]
    | none => [c]

/-- Whether the first character that is not case-ignorable is a cased letter. Read on the
characters before a sigma (nearest first) and on those after it. -/
def casedNext (cs : List Char) : Bool :=
  match cs.dropWhile isCaseIgnorable with
  | c :: _ => isCasedLetter c
  | [] => false

/-- Whether a capital sigma between `before` (nearest first) and `after` ends a word. -/
def endsWord (before after : List Char) : Bool :=
  casedNext before && !casedNext after

/-- Lowercases `rest`, where `before` holds the characters already read, nearest first. -/
def lowerFrom (before : List Char) : List Char → List Char
  | [] => []
  | c :: rest =>
    let here := if c == 'Σ' then [if endsWord before rest then 'ς' else 'σ'] else lowerChar c
    here ++ lowerFrom (c :: before) rest

/-- Full Unicode lowercase of a string. -/
def lower (s : String) : String :=
  String.ofList (lowerFrom [] s.toList)

/-- Lowercase of the ASCII capital letters only. -/
def lowerAsciiChar (c : Char) : Char :=
  if 'A' ≤ c && c ≤ 'Z' then Char.ofNat (c.toNat + 32) else c

/-- Lowercase of the ASCII capital letters only; every other character is kept. -/
def lowerAscii (s : String) : String :=
  String.ofList (s.toList.map lowerAsciiChar)

/-- Equality of two strings up to the case of ASCII letters. -/
def eqIgnoreAsciiCase (a b : String) : Bool :=
  lowerAscii a == lowerAscii b

example : lower "ΣΑΣ" = "σας" ∧ lower "Hello" = "hello" ∧ lowerAscii "ÀB" = "Àb" := by
  decide +kernel

end ChatBot.Text
