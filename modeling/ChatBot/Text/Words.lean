import ChatBot.Text.CharClass

/-!
# Words of a command line

A command line is cut at runs of blank characters (Unicode White_Space). Two cuts are
used:

* `words`: the non-empty words, in order. Every argument parser reads these.
* `splitRuns n`: cut at the first `n` blank runs only and keep the rest whole, so a line
  that ends in a blank run has an empty last piece.
* `splitAtRuns`: cut at every blank run, keeping the empty pieces at the ends.

The last two are the splits at the matches of the pattern "one or more blanks": the leftmost
match is the first blank run, taken whole. `splitSpaces`, `splitFirstToken` and
`collapseBlanks` build on them.
-/

namespace ChatBot.Text

/-- Drops the blank characters at the front. -/
def trimStartChars (cs : List Char) : List Char :=
  cs.dropWhile isBlank

/-- Drops the blank characters at both ends. -/
def trimChars (cs : List Char) : List Char :=
  ((cs.dropWhile isBlank).reverse.dropWhile isBlank).reverse

/-- A string without its leading and trailing blank characters. -/
def trim (s : String) : String :=
  String.ofList (trimChars s.toList)

/-- A string without its leading blank characters. -/
def trimStart (s : String) : String :=
  String.ofList (trimStartChars s.toList)

/-- The non-empty words of `rest`; `word` holds the letters of the word being read, last
letter first. -/
def wordsFrom (word : List Char) : List Char → List (List Char)
  | [] => if word.isEmpty then [] else [word.reverse]
  | c :: rest =>
    if isBlank c then
      if word.isEmpty then wordsFrom [] rest else word.reverse :: wordsFrom [] rest
    else wordsFrom (c :: word) rest

/-- The non-empty words of a character list, in order. -/
def wordsOf (cs : List Char) : List (List Char) :=
  wordsFrom [] cs

/-- The non-empty words of a string, in order. -/
def words (s : String) : List String :=
  (wordsOf s.toList).map String.ofList

/-- The text before the first blank, and the text after the blank run that starts
there (none when the text has no blank). -/
def breakAtBlank : List Char → List Char × Option (List Char)
  | [] => ([], none)
  | c :: rest =>
    if isBlank c then ([], some (rest.dropWhile isBlank))
    else
      let (word, after) := breakAtBlank rest
      (c :: word, after)

/-- Cuts at the first `n` blank runs: at most `n + 1` pieces, the last one holding the rest
of the text whole. -/
def splitRuns : Nat → List Char → List (List Char)
  | 0, cs => [cs]
  | n + 1, cs =>
    match breakAtBlank cs with
    | (word, none) => [word]
    | (word, some rest) => word :: splitRuns n rest

/-- The text after the first blank run is shorter than the whole text. -/
theorem length_lt_of_breakAtBlank {cs word rest : List Char}
    (broke : breakAtBlank cs = (word, some rest)) : rest.length < cs.length := by
  induction cs generalizing word with
  | nil => simp [breakAtBlank] at broke
  | cons c tail ih =>
    by_cases blank : isBlank c = true
    · simp only [breakAtBlank, blank, if_true, Prod.mk.injEq, Option.some.injEq] at broke
      rw [← broke.2]
      exact Nat.lt_succ_of_le (List.dropWhile_suffix isBlank).length_le
    · simp only [breakAtBlank, blank, Bool.false_eq_true, if_false, Prod.mk.injEq] at broke
      exact Nat.lt_succ_of_lt (ih (Prod.ext rfl broke.2))

/-- Cuts at every blank run: the pieces between the runs, in order. A text that starts or
ends with a blank has an empty first or last piece; no other piece is empty, as each run is
taken whole. -/
def splitAtRuns (cs : List Char) : List (List Char) :=
  match _broke : breakAtBlank cs with
  | (word, none) => [word]
  | (word, some rest) => word :: splitAtRuns rest
termination_by cs.length
decreasing_by exact length_lt_of_breakAtBlank _broke

/-- A text with no blank run is one piece. -/
theorem splitAtRuns_of_none {cs word : List Char} (broke : breakAtBlank cs = (word, none)) :
    splitAtRuns cs = [word] := by
  rw [splitAtRuns]
  split <;> simp_all

/-- A text is cut at its first blank run: the word before it, then the pieces of the rest. -/
theorem splitAtRuns_of_some {cs word rest : List Char}
    (broke : breakAtBlank cs = (word, some rest)) :
    splitAtRuns cs = word :: splitAtRuns rest := by
  rw [splitAtRuns]
  split <;> simp_all

/-- Splits on blank runs after dropping leading blanks. A blank string gives no pieces.
With `limit = 0` every run cuts and the empty pieces are dropped; otherwise at most `limit`
pieces, the last one holding the rest unsplit, so a trailing blank leaves an empty last
piece. -/
def splitSpaces (s : String) (limit : Nat) : List String :=
  let cs := trimStartChars s.toList
  if cs.isEmpty then []
  else if limit = 0 then ((splitAtRuns cs).filter (fun p => !p.isEmpty)).map String.ofList
  else (splitRuns (limit - 1) cs).map String.ofList

/-- The first word and the trimmed rest of the line, or none for a blank line. -/
def splitFirstToken (s : String) : Option (String × String) :=
  match splitSpaces s 2 with
  | [] => none
  | [first] => some (first, "")
  | first :: rest :: _ => some (first, trim rest)

/-- Every blank run replaced by one space, then the ends trimmed. -/
def collapseBlanks (s : String) : String :=
  trim (String.ofList ([' '].intercalate (splitAtRuns s.toList)))

example : splitSpaces "a " 2 = ["a", ""] ∧ splitSpaces "a b" 3 = ["a", "b"] ∧
    splitSpaces "  x  y z " 2 = ["x", "y z "] ∧ splitFirstToken " \t " = none := by
  decide +kernel

end ChatBot.Text
