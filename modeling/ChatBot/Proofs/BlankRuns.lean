import ChatBot.Proofs.Descent

/-!
# Cutting at blank runs

Besides the word tokenizer that reading uses (`words`), a line is read through the matches
of the pattern "one or more blanks": the split with no limit keeps the pieces between the
runs that are not empty, and the collapse replaces every run by one space and trims the
ends. Both see the line only through its words. The non-empty pieces are the words
(`splitAtRuns_filter`), and the collapsed line is the words joined by single spaces
(`collapseBlanks_eq`). With the first-word cut of `Proofs.FirstWord`, every whitespace helper
agrees with the word tokenizer (`blank_helpers_agree_with_words`).

Everything here follows from how `breakAtBlank` cuts once: a blank-free word, then either
nothing or a whole blank run. So no piece of the split holds a blank, only the first and the
last piece can be empty, and a run at the front of a line only adds an empty first piece.
-/

namespace ChatBot.Text

/-! ## One cut -/

/-- With no blank in the text, the cut keeps the whole text as its word. -/
theorem breakAtBlank_none {cs word : List Char} (broke : breakAtBlank cs = (word, none)) :
    cs = word ∧ ∀ c ∈ word, isBlank c = false := by
  obtain ⟨w, after, spelled, solid, ends⟩ := breakAtBlank_spec cs
  rcases ends with ⟨rfl, cut⟩ | ⟨b, tail, -, -, cut⟩
  · rw [cut] at broke
    cases broke
    exact ⟨by simpa using spelled, solid⟩
  · rw [cut] at broke
    cases broke

/-- With a blank in the text, the cut keeps the blank-free text before it as its word and
the text after the whole run as the rest. -/
theorem breakAtBlank_some {cs word rest : List Char}
    (broke : breakAtBlank cs = (word, some rest)) :
    ∃ b tail, cs = word ++ b :: tail ∧ isBlank b = true ∧ rest = tail.dropWhile isBlank ∧
      ∀ c ∈ word, isBlank c = false := by
  obtain ⟨w, after, spelled, solid, ends⟩ := breakAtBlank_spec cs
  rcases ends with ⟨-, cut⟩ | ⟨b, tail, blank, rfl, cut⟩
  · rw [cut] at broke
    cases broke
  · rw [cut] at broke
    cases broke
    exact ⟨b, tail, spelled, blank, rfl, solid⟩

/-! ## The pieces of the split -/

/-- Cutting at blank runs gives at least one piece. -/
theorem splitAtRuns_ne_nil (cs : List Char) : splitAtRuns cs ≠ [] := by
  cases broke : breakAtBlank cs with
  | mk word after =>
    cases after with
    | none => simp [splitAtRuns_of_none broke]
    | some rest => simp [splitAtRuns_of_some broke]

/-- No piece holds a blank. -/
theorem splitAtRuns_blankFree (cs : List Char) :
    ∀ p ∈ splitAtRuns cs, ∀ c ∈ p, isBlank c = false := by
  induction cs using splitAtRuns.induct with
  | case1 cs word broke =>
    rw [splitAtRuns_of_none broke, List.forall_mem_singleton]
    exact (breakAtBlank_none broke).2
  | case2 cs word rest broke ih =>
    obtain ⟨-, -, -, -, -, solid⟩ := breakAtBlank_some broke
    rw [splitAtRuns_of_some broke, List.forall_mem_cons]
    exact ⟨solid, ih⟩

/-- A text without blanks is its own only word, and has none when it is empty. -/
theorem wordsOf_of_blankFree {w : List Char} (solid : ∀ c ∈ w, isBlank c = false) :
    wordsOf w = [w].filter (fun p => !p.isEmpty) := by
  cases w with
  | nil => rfl
  | cons c rest =>
    rw [wordsOf, wordsFrom_of_blankFree [] (c :: rest) solid (by simp)]
    simp

/-- A blank ends the word before it, and the rest of its run belongs to no word. -/
theorem wordsOf_append_blank {b : Char} (blank : isBlank b = true) (word tail : List Char) :
    wordsOf (word ++ b :: tail) = wordsOf word ++ wordsOf (tail.dropWhile isBlank) := by
  rw [wordsOf_dropWhile]
  exact wordsFrom_append_blank [] word tail blank

/-- The non-empty pieces of the split at every blank run are the words. -/
theorem splitAtRuns_filter (cs : List Char) :
    (splitAtRuns cs).filter (fun p => !p.isEmpty) = wordsOf cs := by
  induction cs using splitAtRuns.induct with
  | case1 cs word broke =>
    obtain ⟨rfl, solid⟩ := breakAtBlank_none broke
    rw [splitAtRuns_of_none broke, wordsOf_of_blankFree solid]
  | case2 cs word rest broke ih =>
    obtain ⟨b, tail, rfl, blank, rfl, solid⟩ := breakAtBlank_some broke
    rw [splitAtRuns_of_some broke, ← List.singleton_append, List.filter_append, ih,
      wordsOf_append_blank blank, wordsOf_of_blankFree solid]

/-- Every word is non-empty and holds no blank. -/
theorem wordsOf_solid (cs : List Char) : ∀ w ∈ wordsOf cs, w ≠ [] ∧ ∀ c ∈ w, isBlank c = false := by
  intro w mem
  rw [← splitAtRuns_filter, List.mem_filter] at mem
  exact ⟨by simpa using mem.2, splitAtRuns_blankFree cs w mem.1⟩

/-- Splitting on blank runs with no limit gives the words. -/
theorem splitSpaces_zero (s : String) : splitSpaces s 0 = words s := by
  have sameWords : words s = (wordsOf (trimStartChars s.toList)).map String.ofList := by
    rw [trimStartChars, wordsOf_dropWhile]
    rfl
  rw [sameWords]
  by_cases blankLine : (trimStartChars s.toList).isEmpty = true
  · simp [splitSpaces, List.isEmpty_iff.mp blankLine, wordsOf, wordsFrom]
  · simp [splitSpaces, blankLine, splitAtRuns_filter]

/-! ## Joining the pieces by single spaces -/

/-- Non-empty words without blanks, joined by single spaces, have no blank at either end. -/
theorem intercalate_trimmed (ws : List (List Char))
    (solid : ∀ w ∈ ws, w ≠ [] ∧ ∀ c ∈ w, isBlank c = false) :
    Trimmed ([' '].intercalate ws) := by
  induction ws with
  | nil => exact ⟨by simp, by simp⟩
  | cons w rest ih =>
    obtain ⟨started, letters⟩ := solid w List.mem_cons_self
    obtain ⟨d, w', rfl⟩ := List.exists_cons_of_ne_nil started
    cases rest with
    | nil =>
      refine ⟨fun c head => letters c (List.mem_of_mem_head? head), fun c last => ?_⟩
      exact letters c (List.mem_of_getLast? (by simpa using last))
    | cons v more =>
      obtain ⟨-, lastLetter⟩ := ih fun u mem => solid u (List.mem_cons_of_mem _ mem)
      have restStarted : [' '].intercalate (v :: more) ≠ [] := by
        obtain ⟨e, v', rfl⟩ := List.exists_cons_of_ne_nil (solid v (by simp)).1
        simp
      obtain ⟨x, lastIs⟩ := Option.ne_none_iff_exists'.mp
        (mt List.getLast?_eq_none_iff.mp restStarted)
      have joined : [' '].intercalate ((d :: w') :: v :: more) =
          (d :: w' ++ [' ']) ++ [' '].intercalate (v :: more) := by
        simp
      refine ⟨fun c head => letters c (List.mem_of_mem_head? (by simpa [joined] using head)), ?_⟩
      intro c last
      rw [joined, List.getLast?_append, lastIs, Option.some_or] at last
      exact lastLetter c (by rw [lastIs]; exact last)

/-- A blank at the front adds an empty first piece, so one space before the rest's
pieces. -/
theorem intercalate_splitAtRuns_cons_blank {b : Char} (blank : isBlank b = true)
    (rest : List Char) :
    [' '].intercalate (splitAtRuns (b :: rest)) =
      ' ' :: [' '].intercalate (splitAtRuns (rest.dropWhile isBlank)) := by
  have broke : breakAtBlank (b :: rest) = ([], some (rest.dropWhile isBlank)) := by
    simp [breakAtBlank, blank]
  rw [splitAtRuns_of_some broke, List.intercalate_cons_of_ne_nil (splitAtRuns_ne_nil _)]
  rfl

/-- For a text that does not start with a blank, the pieces joined by single spaces are the
words joined by single spaces, followed by blanks (one space when the text ends in a
run). -/
theorem intercalate_splitAtRuns_of_head (cs : List Char)
    (head : ∀ c ∈ cs.head?, isBlank c = false) :
    ∃ trail : List Char, (∀ c ∈ trail, isBlank c = true) ∧
      [' '].intercalate (splitAtRuns cs) = [' '].intercalate (wordsOf cs) ++ trail := by
  induction cs using splitAtRuns.induct with
  | case1 cs word broke =>
    obtain ⟨rfl, solid⟩ := breakAtBlank_none broke
    refine ⟨[], by simp, ?_⟩
    rw [splitAtRuns_of_none broke, wordsOf_of_blankFree solid]
    cases cs <;> simp
  | case2 cs word rest broke ih =>
    obtain ⟨b, tail, rfl, blank, rfl, solid⟩ := breakAtBlank_some broke
    obtain ⟨trail, blanks, joined⟩ := ih (dropWhile_head tail)
    have started : word ≠ [] := by
      rintro rfl
      simp [blank] at head
    have cut : wordsOf (word ++ b :: tail) = word :: wordsOf (tail.dropWhile isBlank) := by
      rw [wordsOf_append_blank blank, wordsOf_of_blankFree solid]
      simp [started]
    rw [splitAtRuns_of_some broke, List.intercalate_cons_of_ne_nil (splitAtRuns_ne_nil _),
      joined, cut]
    cases rest : tail.dropWhile isBlank with
    | nil =>
      refine ⟨' ' :: trail, List.forall_mem_cons.mpr ⟨by decide, blanks⟩, ?_⟩
      simp [wordsOf, wordsFrom]
    | cons c more =>
      have letter : isBlank c = false := dropWhile_head tail c (by rw [rest]; rfl)
      have following : wordsOf (c :: more) ≠ [] := by
        simpa [wordsOf, wordsFrom, letter] using wordsFrom_ne_nil (show [c] ≠ [] by simp) more
      exact ⟨trail, blanks, by rw [List.intercalate_cons_of_ne_nil following]; simp⟩

/-- Trimming removes a blank at the front. -/
theorem trimChars_cons_blank {b : Char} (blank : isBlank b = true) (cs : List Char) :
    trimChars (b :: cs) = trimChars cs := by
  rw [← trimChars_dropWhile, List.dropWhile_cons_of_pos blank, trimChars_dropWhile]

/-- A run at the front of a text only adds a leading space to its joined pieces, which
trimming removes. -/
theorem trimChars_intercalate_splitAtRuns (cs : List Char) :
    trimChars ([' '].intercalate (splitAtRuns cs)) =
      trimChars ([' '].intercalate (splitAtRuns (cs.dropWhile isBlank))) := by
  cases cs with
  | nil => rfl
  | cons c rest =>
    by_cases blank : isBlank c = true
    · rw [intercalate_splitAtRuns_cons_blank blank, List.dropWhile_cons_of_pos blank,
        trimChars_cons_blank (by decide)]
    · rw [List.dropWhile_cons_of_neg (by simpa using blank)]

/-- Collapsing the blank runs gives the words joined by single spaces. -/
theorem collapseBlanks_eq (s : String) : collapseBlanks s = " ".intercalate (words s) := by
  obtain ⟨trail, blanks, joined⟩ :=
    intercalate_splitAtRuns_of_head (s.toList.dropWhile isBlank) (dropWhile_head s.toList)
  have collapsed : trimChars ([' '].intercalate (splitAtRuns s.toList)) =
      [' '].intercalate (wordsOf s.toList) := by
    rw [trimChars_intercalate_splitAtRuns, joined, trimChars_append_blanks _ _ blanks,
      wordsOf_dropWhile, trimChars_of_trimmed (intercalate_trimmed _ (wordsOf_solid _))]
  apply String.toList_injective
  simp [collapseBlanks, trim, collapsed, words]

/-! ## The helpers agree with the tokenizer -/

/-- The whitespace helpers read a line as the word tokenizer does. Splitting on blank runs
with no limit gives the words. The first-word cut is none exactly for a line without words;
otherwise the line is blanks, the cut's word and a text that is empty or starts with a
blank, the cut's rest is that text trimmed, and the line's words are the word followed by
the rest's words. Collapsing the blank runs gives the words joined by single spaces. -/
theorem blank_helpers_agree_with_words (s : String) :
    splitSpaces s 0 = words s ∧
      (splitFirstToken s = none ↔ words s = []) ∧
      (∀ t rest, splitFirstToken s = some (t, rest) →
        ∃ lead after, s.toList = lead ++ t.toList ++ after ∧ (∀ c ∈ lead, isBlank c = true) ∧
          (∀ c ∈ after.head?, isBlank c = true) ∧ rest = trim (String.ofList after) ∧
          words s = t :: words rest) ∧
      collapseBlanks s = " ".intercalate (words s) := by
  refine ⟨splitSpaces_zero s, splitFirstToken_eq_none_iff s, fun t rest split => ?_,
    collapseBlanks_eq s⟩
  rcases splitFirstToken_spec s with ⟨-, none_⟩ |
      ⟨lead, word, after, spelled, blanks, -, -, ends, split', cut⟩
  · rw [split] at none_
    cases none_
  · rw [split] at split'
    cases split'
    refine ⟨lead, after, by simpa using spelled, blanks, ends, rfl, ?_⟩
    rw [cut, words_trim]

end ChatBot.Text
