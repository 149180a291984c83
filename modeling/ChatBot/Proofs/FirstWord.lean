import Mathlib.Data.List.TakeWhile
import ChatBot.Proofs.Recompile

/-!
# The first word of a line

A command line is read by cutting off its first word (`splitFirstToken`): the line is
some blanks, the word, and a text that is empty or starts with a blank; the rest handed on
is that text trimmed. So the rest's words are the line's words after the first, and the
rest has no blank at either end.

Trimming (`trim`) keeps the words of a text, leaves no blank at either end, and changes
nothing the second time.
-/

namespace ChatBot.Text

/-! ## Blanks around the words -/

/-- A text of blanks has no word. -/
theorem wordsFrom_blanks (bs : List Char) (blanks : ∀ c ∈ bs, isBlank c = true) :
    wordsFrom [] bs = [] := by
  induction bs with
  | nil => rfl
  | cons b rest ih =>
    rw [wordsFrom, if_pos (blanks b List.mem_cons_self)]
    exact ih fun c mem => blanks c (List.mem_cons_of_mem b mem)

/-- Blanks at the end of a text add no word. -/
theorem wordsFrom_append_blanks (word cs bs : List Char) (blanks : ∀ c ∈ bs, isBlank c = true) :
    wordsFrom word (cs ++ bs) = wordsFrom word cs := by
  induction cs generalizing word with
  | nil =>
    cases bs with
    | nil => rfl
    | cons b rest =>
      have tail := wordsFrom_blanks rest fun c mem => blanks c (List.mem_cons_of_mem b mem)
      cases word <;> simp [wordsFrom, blanks b List.mem_cons_self, tail]
  | cons c rest ih =>
    by_cases blank : isBlank c = true
    · cases word <;> simp [wordsFrom, blank, ih]
    · simp [wordsFrom, blank, ih]

/-- Blanks at the front of a text add no word. -/
theorem wordsOf_dropWhile (cs : List Char) : wordsOf (cs.dropWhile isBlank) = wordsOf cs := by
  induction cs with
  | nil => rfl
  | cons c rest ih =>
    by_cases blank : isBlank c = true
    · rw [List.dropWhile_cons_of_pos blank, ih]
      simp [wordsOf, wordsFrom, blank]
    · rw [List.dropWhile_cons_of_neg blank]

/-- The text after its leading blanks is the trimmed text followed by the trailing
blanks. -/
theorem dropWhile_eq_trimChars_append (cs : List Char) :
    cs.dropWhile isBlank =
      trimChars cs ++ ((cs.dropWhile isBlank).reverse.takeWhile isBlank).reverse := by
  have back := congrArg List.reverse
    (List.takeWhile_append_dropWhile (p := isBlank) (l := (cs.dropWhile isBlank).reverse))
  rw [List.reverse_append, List.reverse_reverse] at back
  rw [trimChars]
  exact back.symm

/-- Trimming keeps the words. -/
theorem wordsOf_trimChars (cs : List Char) : wordsOf (trimChars cs) = wordsOf cs := by
  rw [← wordsOf_dropWhile cs, dropWhile_eq_trimChars_append]
  exact (wordsFrom_append_blanks [] _ _ fun c mem =>
    List.mem_takeWhile_imp (List.mem_reverse.mp mem)).symm

/-- The empty text has no words. -/
@[simp] theorem words_empty : words "" = [] := rfl

/-- Trimming keeps the words. -/
theorem words_trim (s : String) : words (trim s) = words s := by
  simp [words, trim, wordsOf_trimChars]

/-- A text with no blank at either end. -/
def Trimmed (cs : List Char) : Prop :=
  (∀ c ∈ cs.head?, isBlank c = false) ∧ ∀ c ∈ cs.getLast?, isBlank c = false

/-- Dropping the leading blanks leaves a text that starts with no blank. -/
theorem dropWhile_head (cs : List Char) : ∀ c ∈ (cs.dropWhile isBlank).head?, isBlank c = false := by
  intro c head
  have := List.head?_dropWhile_not isBlank cs
  rw [Option.mem_def] at head
  simpa [head] using this

/-- Trimming leaves no blank at either end. -/
theorem trimChars_trimmed (cs : List Char) : Trimmed (trimChars cs) := by
  constructor
  · -- The trimmed text begins the text after the leading blanks.
    intro c head
    have front := dropWhile_eq_trimChars_append cs
    apply dropWhile_head cs c
    rw [front, List.head?_append, Option.mem_def, head, Option.some_or]
  · intro c last
    rw [trimChars, List.getLast?_reverse] at last
    exact dropWhile_head _ c last

/-- Trimming keeps a trimmed text. -/
theorem trimChars_of_trimmed {cs : List Char} (trimmed : Trimmed cs) : trimChars cs = cs := by
  have front : cs.dropWhile isBlank = cs := by
    cases cs with
    | nil => rfl
    | cons c rest => exact List.dropWhile_cons_of_neg (by simpa using trimmed.1 c rfl)
  have back : cs.reverse.dropWhile isBlank = cs.reverse := by
    cases reversed : cs.reverse with
    | nil => rfl
    | cons c rest =>
      have last : c ∈ cs.getLast? := by rw [← List.head?_reverse, reversed]; rfl
      exact List.dropWhile_cons_of_neg (by simpa using trimmed.2 c last)
  rw [trimChars, front, back, List.reverse_reverse]

/-- Trimming twice is trimming once. -/
@[simp] theorem trim_trim (s : String) : trim (trim s) = trim s := by
  simp [trim, trimChars_of_trimmed (trimChars_trimmed _)]

/-- Dropping the leading blanks a second time changes nothing. -/
theorem dropWhile_blank_idem (cs : List Char) :
    (cs.dropWhile isBlank).dropWhile isBlank = cs.dropWhile isBlank := by
  cases dropped : cs.dropWhile isBlank with
  | nil => rfl
  | cons c rest =>
    have head := dropWhile_head cs c (by rw [dropped]; rfl)
    exact List.dropWhile_cons_of_neg (by simpa using head)

/-- Blanks at the front make no difference to trimming. -/
theorem trimChars_dropWhile (cs : List Char) : trimChars (cs.dropWhile isBlank) = trimChars cs := by
  rw [trimChars, trimChars, dropWhile_blank_idem]

/-! ## The first word -/

/-- `breakAtBlank` stops at the first blank: the text is the word before it and the rest,
which is empty or starts with that blank; past the blank, the leading blanks of the rest
are dropped. -/
theorem breakAtBlank_spec (cs : List Char) :
    ∃ word after, cs = word ++ after ∧ (∀ c ∈ word, isBlank c = false) ∧
      ((after = [] ∧ breakAtBlank cs = (word, none)) ∨
        ∃ b tail, isBlank b = true ∧ after = b :: tail ∧
          breakAtBlank cs = (word, some (tail.dropWhile isBlank))) := by
  induction cs with
  | nil => exact ⟨[], [], rfl, by simp, Or.inl ⟨rfl, rfl⟩⟩
  | cons c rest ih =>
    by_cases blank : isBlank c = true
    · exact ⟨[], c :: rest, rfl, by simp,
        Or.inr ⟨c, rest, blank, rfl, by simp [breakAtBlank, blank]⟩⟩
    · obtain ⟨word, after, spelled, solid, ends⟩ := ih
      refine ⟨c :: word, after, by simp [spelled], ?_, ?_⟩
      · intro d mem
        rcases List.mem_cons.mp mem with same | old
        · subst same
          simpa using blank
        · exact solid d old
      · rcases ends with ⟨none_, broke⟩ | ⟨b, tail, blankB, after_, broke⟩
        · exact Or.inl ⟨none_, by simp [breakAtBlank, blank, broke]⟩
        · exact Or.inr ⟨b, tail, blankB, after_, by simp [breakAtBlank, blank, broke]⟩

/-- How a line is cut at its first word. A blank line has no word and no first word.
Otherwise the line is blanks, a word with no blank, and a text that is empty or starts
with a blank; the first word is that word, the rest that text trimmed, and the line's
words are the word followed by the text's words. -/
theorem splitFirstToken_spec (s : String) :
    (words s = [] ∧ splitFirstToken s = none) ∨
      ∃ lead word after, s.toList = lead ++ word ++ after ∧ (∀ c ∈ lead, isBlank c = true) ∧
        word ≠ [] ∧ (∀ c ∈ word, isBlank c = false) ∧ (∀ c ∈ after.head?, isBlank c = true) ∧
        splitFirstToken s = some (String.ofList word, trim (String.ofList after)) ∧
        words s = String.ofList word :: words (String.ofList after) := by
  have dropped : s.toList = s.toList.takeWhile isBlank ++ s.toList.dropWhile isBlank :=
    List.takeWhile_append_dropWhile.symm
  have leading : ∀ c ∈ s.toList.takeWhile isBlank, isBlank c = true :=
    fun c mem => List.mem_takeWhile_imp mem
  have sameWords : words s = (wordsOf (s.toList.dropWhile isBlank)).map String.ofList := by
    rw [wordsOf_dropWhile]
    rfl
  obtain ⟨word, after, spelled, solid, ends⟩ := breakAtBlank_spec (s.toList.dropWhile isBlank)
  by_cases blankLine : s.toList.dropWhile isBlank = []
  · left
    refine ⟨by rw [sameWords, blankLine]; rfl, ?_⟩
    simp [splitFirstToken, splitSpaces, trimStartChars, blankLine]
  · right
    have nonempty : word ≠ [] := by
      rintro rfl
      obtain ⟨c, rest, starts⟩ := List.exists_cons_of_ne_nil blankLine
      have head := dropWhile_head s.toList c (by rw [starts]; rfl)
      rcases ends with ⟨rfl, -⟩ | ⟨b, tail, blankB, rfl, -⟩
      · exact blankLine (by simpa using spelled)
      · rw [starts] at spelled
        simp only [List.nil_append, List.cons.injEq] at spelled
        rw [spelled.1, blankB] at head
        cases head
    have solo : wordsFrom [] word = [word] := by
      simpa using wordsFrom_of_blankFree [] word solid (by simpa using nonempty)
    have notEmpty : (s.toList.dropWhile isBlank).isEmpty = false := by
      simpa using blankLine
    rcases ends with ⟨rfl, broke⟩ | ⟨b, tail, blankB, rfl, broke⟩
    · refine ⟨_, word, [], by rw [List.append_nil, ← spelled.trans (List.append_nil _)]; exact dropped,
        leading, nonempty, solid, by simp, ?_, ?_⟩
      · simp [splitFirstToken, splitSpaces, trimStartChars, notEmpty, splitRuns, broke]
        rfl
      · rw [sameWords, spelled, List.append_nil]
        simp [wordsOf, solo, words, wordsFrom]
    · refine ⟨_, word, b :: tail, by rw [List.append_assoc, ← spelled]; exact dropped, leading,
        nonempty, solid,
        by simpa using blankB, ?_, ?_⟩
      · have rest : trimChars (tail.dropWhile isBlank) = trimChars (b :: tail) := by
          rw [trimChars_dropWhile, ← trimChars_dropWhile (b :: tail),
            List.dropWhile_cons_of_pos blankB, trimChars_dropWhile]
        simp [splitFirstToken, splitSpaces, trimStartChars, notEmpty, splitRuns, broke, trim,
          rest]
      · rw [sameWords, spelled]
        simp [words, wordsOf, wordsFrom_append_blank [] word tail blankB, solo, wordsFrom, blankB]

/-- A line has a first word exactly when it has words. -/
theorem splitFirstToken_eq_none_iff (s : String) : splitFirstToken s = none ↔ words s = [] := by
  rcases splitFirstToken_spec s with ⟨blank, split⟩ | ⟨lead, word, after, -, -, -, -, -, split, cut⟩
  · exact ⟨fun _ => blank, fun _ => split⟩
  · simp [split, cut]

/-- The first word is the line's first word; the rest holds the line's other words and has
no blank at either end. -/
theorem splitFirstToken_eq_some {s t rest : String} (split : splitFirstToken s = some (t, rest)) :
    words s = t :: words rest ∧ trim rest = rest := by
  rcases splitFirstToken_spec s with ⟨-, none_⟩ | ⟨lead, word, after, -, -, -, -, -, split', cut⟩
  · rw [split] at none_
    cases none_
  · rw [split] at split'
    cases split'
    exact ⟨by rw [cut, words_trim], trim_trim _⟩

end ChatBot.Text
