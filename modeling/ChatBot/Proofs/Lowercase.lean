import ChatBot.Text.Lower
import ChatBot.Text.CharClass

/-!
# What lowercasing produces

Lowercasing is idempotent, and it never creates a character that cuts a usage line into
words or marks the parts of a word: a blank, a colon or an exclamation mark in a lowered
text was already in the text, at the same place when it is the first character.

Both facts come from one property of the table, checked once over its 1487 targets: every
character a run lowers to is its own lowercase, is not the capital sigma, and is none of
those marks. The binary search that finds a character's run only ever returns a run of the
table that starts at or below the character, so every lowering goes through that check.
-/

namespace ChatBot.Text

/-- The character the `i`-th code point of a run lowers to. -/
def CaseRun.target (r : CaseRun) (i : Nat) : Char :=
  Char.ofNat (((r.first + i * r.stride : Nat) : Int) + r.shift).toNat

/-- A character lowercasing keeps wherever it stands: its own lowercase, and not the
capital sigma, whose lowercase depends on its neighbours. -/
def Lowered (c : Char) : Prop :=
  lowerChar c = [c] ∧ c ≠ 'Σ'

/-- The characters that cut a usage line into words or mark the parts of a word: the
blanks, the colon before a kind and the exclamation mark of a flag. -/
def Delimiter (c : Char) : Prop :=
  isBlank c = true ∨ c = ':' ∨ c = '!'

/-- Whether a character is lowered is decided field by field. -/
instance : DecidablePred Lowered := fun _ => inferInstanceAs (Decidable (_ ∧ _))

/-- Whether a character is a delimiter is decided case by case. -/
instance : DecidablePred Delimiter := fun _ => inferInstanceAs (Decidable (_ ∨ _))

/-- The table, checked target by target: each is lowered and none is a delimiter. -/
theorem lowerRuns_targets :
    ∀ r ∈ lowerRuns.toList, ∀ i < r.count,
      Lowered (r.target i) ∧ ¬ Delimiter (r.target i) := by
  decide +kernel

/-- The binary search returns a run it searched that starts at or below `n`, or what it
was given. -/
theorem runAtOrBelow_mem {runs : Array CaseRun} {n lo hi : Nat} {found : Option CaseRun}
    {r : CaseRun} (search : runAtOrBelow runs n lo hi found = some r) :
    (r ∈ runs.toList ∧ r.first ≤ n) ∨ found = some r := by
  fun_induction runAtOrBelow runs n lo hi found with
  | case1 lo hi found inside mid missing => exact Or.inr search
  | case2 lo hi found inside mid r' probe below ih =>
    rcases ih search with kept | same
    · exact Or.inl kept
    · have member : r' ∈ runs.toList := Array.mem_toList_iff.mpr (Array.mem_of_getElem? probe)
      cases same
      exact Or.inl ⟨member, below⟩
  | case3 lo hi found inside mid r' probe above ih => exact ih search
  | case4 lo hi found done => exact Or.inr search

/-- The lowercase Latin letters are lowered and no delimiter. -/
theorem asciiLower_lowered : ∀ i < 26,
    Lowered (Char.ofNat (i + 97)) ∧ ¬ Delimiter (Char.ofNat (i + 97)) := by
  decide

/-- Capital I with dot above lowers to `i` and a combining dot, both lowered. -/
theorem dottedI_lowered : ∀ d ∈ ['i', Char.ofNat 0x307], Lowered d ∧ ¬ Delimiter d := by
  -- Checked one character at a time: a decision over all characters would enumerate them.
  intro d mem
  simp only [List.mem_cons, List.not_mem_nil, or_false] at mem
  rcases mem with same | same <;> (subst same; decide +kernel)

/-- A capital Latin letter lowers to a lowered character that is no delimiter. -/
theorem capital_lowered {c : Char} (capital : ('A' ≤ c && c ≤ 'Z') = true) :
    Lowered (Char.ofNat (c.toNat + 32)) ∧ ¬ Delimiter (Char.ofNat (c.toNat + 32)) := by
  simp only [Bool.and_eq_true, decide_eq_true_eq, Char.le_def] at capital
  have atLeastA : 65 ≤ c.toNat := capital.1
  have atMostZ : c.toNat ≤ 90 := capital.2
  have shifted : c.toNat + 32 = (c.toNat - 65) + 97 := by omega
  rw [shifted]
  exact asciiLower_lowered _ (by omega)

/-- A character in the progression of the run the search finds lowers to one of the run's
targets, so to a lowered character that is no delimiter. -/
theorem run_target_lowered {c : Char} {r : CaseRun}
    (search : runAtOrBelow lowerRuns c.toNat 0 lowerRuns.size none = some r)
    (progression : ((c.toNat - r.first) % r.stride == 0 &&
      decide ((c.toNat - r.first) / r.stride < r.count)) = true) :
    Lowered (Char.ofNat ((c.toNat : Int) + r.shift).toNat) ∧
      ¬ Delimiter (Char.ofNat ((c.toNat : Int) + r.shift).toNat) := by
  rcases runAtOrBelow_mem search with ⟨member, below⟩ | impossible
  · simp only [Bool.and_eq_true, beq_iff_eq, decide_eq_true_eq] at progression
    obtain ⟨aligned, counted⟩ := progression
    have spot : c.toNat = r.first + (c.toNat - r.first) / r.stride * r.stride := by
      have := Nat.div_mul_cancel (Nat.dvd_of_mod_eq_zero aligned)
      omega
    have target := lowerRuns_targets r member _ counted
    rw [CaseRun.target, ← spot] at target
    exact target
  · cases impossible

/-- A character is its own lowercase, or lowers to lowered characters none of which is a
delimiter. -/
theorem lowerChar_cases (c : Char) :
    lowerChar c = [c] ∨ ∀ d ∈ lowerChar c, Lowered d ∧ ¬ Delimiter d := by
  unfold lowerChar
  split
  · -- ASCII: only the capital letters move, to the small ones.
    by_cases capital : ('A' ≤ c && c ≤ 'Z') = true
    · right
      intro d mem
      rw [if_pos capital, List.mem_singleton] at mem
      subst mem
      exact capital_lowered capital
    · left
      simp [capital]
  split
  · right
    exact dottedI_lowered
  · -- The table: only a character in the progression of the run found moves.
    dsimp only
    cases search : runAtOrBelow lowerRuns c.toNat 0 lowerRuns.size none with
    | none => left; rfl
    | some r =>
      dsimp only
      by_cases progression : ((c.toNat - r.first) % r.stride == 0 &&
          decide ((c.toNat - r.first) / r.stride < r.count)) = true
      · right
        rw [if_pos progression]
        intro d mem
        rw [List.mem_singleton] at mem
        subst mem
        exact run_target_lowered search progression
      · left
        rw [if_neg progression]

/-- A character other than the capital sigma lowers to lowered characters. -/
theorem lowerChar_lowered {c : Char} (notSigma : c ≠ 'Σ') :
    ∀ d ∈ lowerChar c, Lowered d := by
  rcases lowerChar_cases c with own | moved
  · intro d mem
    rw [own, List.mem_singleton] at mem
    subst mem
    exact ⟨own, notSigma⟩
  · exact fun d mem => (moved d mem).1

/-- A delimiter in a character's lowercase is that character. -/
theorem lowerChar_delimiter {c d : Char} (mem : d ∈ lowerChar c) (delimiter : Delimiter d) :
    d = c := by
  rcases lowerChar_cases c with own | moved
  · rw [own, List.mem_singleton] at mem
    exact mem
  · exact absurd delimiter (moved d mem).2

/-- Every character lowercases to at least one character. -/
theorem lowerChar_ne_nil (c : Char) : lowerChar c ≠ [] := by
  unfold lowerChar
  split
  · simp
  split
  · simp
  · dsimp only
    cases runAtOrBelow lowerRuns c.toNat 0 lowerRuns.size none with
    | none => simp
    | some r =>
      dsimp only
      split <;> simp

/-- Both small sigmas are lowered and no delimiter. -/
theorem smallSigma_lowered : ∀ d ∈ ['ς', 'σ'], Lowered d ∧ ¬ Delimiter d := by
  intro d mem
  simp only [List.mem_cons, List.not_mem_nil, or_false] at mem
  rcases mem with same | same <;> (subst same; decide +kernel)

/-- What lowercasing writes for one character, whatever its neighbours: at least one
character, each lowered, and none a delimiter unless it is the character itself. -/
theorem lowerFrom_cons (before : List Char) (c : Char) (rest : List Char) :
    ∃ here, lowerFrom before (c :: rest) = here ++ lowerFrom (c :: before) rest ∧
      here ≠ [] ∧
      (∀ d ∈ here, Lowered d) ∧ ∀ d ∈ here, Delimiter d → d = c := by
  by_cases sigma : c = 'Σ'
  · subst sigma
    have small :
        ∀ d ∈ [if endsWord before rest then 'ς' else 'σ'], Lowered d ∧ ¬ Delimiter d := by
      intro d mem
      apply smallSigma_lowered d
      split at mem <;> simp_all
    refine ⟨_, by simp [lowerFrom], by simp, fun d mem => (small d mem).1, ?_⟩
    intro d mem delimiter
    exact absurd delimiter (small d mem).2
  · have plain : (c == 'Σ') = false := by simpa using sigma
    refine ⟨lowerChar c, by simp [lowerFrom, plain], lowerChar_ne_nil c,
      lowerChar_lowered sigma, ?_⟩
    exact fun d mem => lowerChar_delimiter mem

/-- Every character of a lowered text is lowered. -/
theorem lowerFrom_lowered (before cs : List Char) : ∀ d ∈ lowerFrom before cs, Lowered d := by
  induction cs generalizing before with
  | nil => simp [lowerFrom]
  | cons c rest ih =>
    obtain ⟨here, unfolded, -, lowered, -⟩ := lowerFrom_cons before c rest
    intro d mem
    rw [unfolded, List.mem_append] at mem
    rcases mem with mine | later
    · exact lowered d mine
    · exact ih (c :: before) d later

/-- A delimiter in a lowered text was in the text. -/
theorem lowerFrom_delimiter (before cs : List Char) :
    ∀ d ∈ lowerFrom before cs, Delimiter d → d ∈ cs := by
  induction cs generalizing before with
  | nil => simp [lowerFrom]
  | cons c rest ih =>
    obtain ⟨here, unfolded, -, -, marks⟩ := lowerFrom_cons before c rest
    intro d mem delimiter
    rw [unfolded, List.mem_append] at mem
    rcases mem with mine | later
    · rw [marks d mine delimiter]
      exact List.mem_cons_self
    · exact List.mem_cons_of_mem c (ih (c :: before) d later delimiter)

/-- A lowered text starts with a delimiter only when the text starts with it. -/
theorem lowerFrom_head_delimiter (before cs : List Char) {d : Char}
    (head : (lowerFrom before cs).head? = some d) (delimiter : Delimiter d) :
    cs.head? = some d := by
  cases cs with
  | nil => simp [lowerFrom] at head
  | cons c rest =>
    obtain ⟨here, unfolded, nonempty, -, marks⟩ := lowerFrom_cons before c rest
    obtain ⟨first, more, spelled⟩ := List.exists_cons_of_ne_nil nonempty
    rw [unfolded, spelled, List.cons_append, List.head?_cons, Option.some.injEq] at head
    subst head
    rw [marks first (by simp [spelled]) delimiter]
    rfl

/-- Lowercasing keeps a text whose characters are all lowered. -/
theorem lowerFrom_of_lowered (before cs : List Char) (lowered : ∀ d ∈ cs, Lowered d) :
    lowerFrom before cs = cs := by
  induction cs generalizing before with
  | nil => rfl
  | cons c rest ih =>
    obtain ⟨own, notSigma⟩ := lowered c List.mem_cons_self
    have plain : (c == 'Σ') = false := by simpa using notSigma
    have tail : lowerFrom (c :: before) rest = rest :=
      ih (c :: before) fun d mem => lowered d (List.mem_cons_of_mem c mem)
    simp only [lowerFrom, plain, own, tail, Bool.false_eq_true, if_false, List.singleton_append]

/-- The characters of a lowercased text are its characters lowercased in context. -/
theorem toList_lower (s : String) : (lower s).toList = lowerFrom [] s.toList := by
  simp [lower]

/-- Every character of a lowercase text is lowered. -/
theorem lower_lowered (s : String) : ∀ d ∈ (lower s).toList, Lowered d := by
  rw [toList_lower]
  exact lowerFrom_lowered [] s.toList

/-- A text whose characters are all lowered is its own lowercase. -/
theorem lower_of_lowered {s : String} (lowered : ∀ d ∈ s.toList, Lowered d) : lower s = s := by
  rw [lower, lowerFrom_of_lowered [] s.toList lowered, String.ofList_toList]

/-- Lowercasing twice is lowercasing once. -/
@[simp] theorem lower_lower (s : String) : lower (lower s) = lower s :=
  lower_of_lowered (lower_lowered s)

/-- A delimiter in a lowercase text was in the text. -/
theorem lower_delimiter (s : String) {d : Char} (mem : d ∈ (lower s).toList)
    (delimiter : Delimiter d) : d ∈ s.toList := by
  rw [toList_lower] at mem
  exact lowerFrom_delimiter [] s.toList d mem delimiter

/-- A lowercase text starts with a delimiter only when the text starts with it. -/
theorem lower_head_delimiter (s : String) {d : Char} (head : (lower s).toList.head? = some d)
    (delimiter : Delimiter d) : s.toList.head? = some d := by
  rw [toList_lower] at head
  exact lowerFrom_head_delimiter [] s.toList head delimiter

end ChatBot.Text
