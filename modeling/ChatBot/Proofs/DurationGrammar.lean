import Mathlib
import ChatBot.Argument.Duration

/-!
# The grammar of duration tokens

A duration token is read after ASCII lowercasing, in one of two forms:

* a non-empty run of ASCII digits, read in decimal as that many seconds;
* one segment or more, each a non-empty run of digits followed by a unit letter (`s`, `m`,
  `h`, `d` or `w`), denoting the sum over its segments of the digits read in decimal times
  the seconds of the unit.

Whether a token is written with units is decided with the decimal digits of every script
(`Spelled isDecimalDigit`), while only ASCII digits are read (`Spelled isAsciiDigit`): a
segment written with other digits has a unit and denotes nothing. Values are summed over
the natural numbers, and a token denotes its value exactly when the value is below 2^64.

The main statement, `parseToken_iff_grammar`, says that `parseToken` and `hasUnit` decide
exactly this grammar. Its two halves, `parseToken_toNat_eq_some_iff` and `hasUnit_iff`, are
what the reading of rendered durations builds on.
-/

namespace ChatBot.Duration

open Text

/-- The unit letters with the seconds each stands for: a second, a minute, an hour, a day
and a week. -/
def units : List (Char × Nat) :=
  [('s', 1), ('m', 60), ('h', 3600), ('d', 86400), ('w', 604800)]

/-- The text of a list of segments: each segment's digits followed by its unit letter. -/
def spell (segs : List (List Char × Char)) : List Char :=
  segs.flatMap fun seg => seg.1 ++ [seg.2]

/-- A segment: a non-empty run of digits of the class `digit`, then a unit letter. -/
def Segment (digit : Char → Bool) (seg : List Char × Char) : Prop :=
  seg.1 ≠ [] ∧ (∀ c ∈ seg.1, digit c = true) ∧ seg.2 ∈ units.map Prod.fst

/-- `cs` is written as the segments `segs`, one or more, with digits of the class `digit`. -/
def Spelled (digit : Char → Bool) (cs : List Char) (segs : List (List Char × Char)) : Prop :=
  segs ≠ [] ∧ (∀ seg ∈ segs, Segment digit seg) ∧ cs = spell segs

/-- The seconds segments denote over the natural numbers: each segment's digits read in
decimal, times the seconds of its unit. -/
def segmentSeconds (segs : List (List Char × Char)) : Nat :=
  (segs.map fun seg => digitsValue seg.1 * (units.lookup seg.2).getD 0).sum

/-- No segments spell nothing. -/
@[simp] theorem spell_nil : spell [] = [] := rfl

/-- A segment spells its digits and its unit letter, before the rest. -/
@[simp] theorem spell_cons (seg : List Char × Char) (segs : List (List Char × Char)) :
    spell (seg :: segs) = seg.1 ++ seg.2 :: spell segs := by
  simp [spell]

/-- No segments are worth no seconds. -/
@[simp] theorem segmentSeconds_nil : segmentSeconds [] = 0 := rfl

/-- A segment is worth its digits' value times its unit's seconds, added to the rest. -/
@[simp] theorem segmentSeconds_cons (seg : List Char × Char) (segs : List (List Char × Char)) :
    segmentSeconds (seg :: segs) =
      digitsValue seg.1 * (units.lookup seg.2).getD 0 + segmentSeconds segs := by
  simp [segmentSeconds]

/-! ## Digits and unit letters -/

/-- The table of unit letters is the list `units`. -/
theorem unitSeconds_eq_lookup (c : Char) : unitSeconds c = units.lookup c := by
  unfold unitSeconds
  split <;> simp_all [units, List.lookup, beq_false_of_ne]

/-- A unit letter stands for a positive number of seconds. -/
theorem lookup_of_unit {u : Char} (unit : u ∈ units.map Prod.fst) :
    ∃ size, units.lookup u = some size ∧ 0 < size := by
  simp only [units, List.map_cons, List.map_nil, List.mem_cons, List.not_mem_nil, or_false]
    at unit
  rcases unit with rfl | rfl | rfl | rfl | rfl <;> exact ⟨_, rfl, by decide⟩

/-- No unit letter is a digit of any script. -/
theorem isDecimalDigit_unit {u : Char} (unit : u ∈ units.map Prod.fst) :
    isDecimalDigit u = false := by
  have table : (units.all fun entry => !isDecimalDigit entry.1) = true := by decide +kernel
  obtain ⟨entry, mem, rfl⟩ := List.mem_map.mp unit
  simpa using List.all_eq_true.mp table entry mem

/-- The ASCII digits are the ten characters from `0` to `9`. -/
theorem exists_of_isAsciiDigit {c : Char} (ascii : isAsciiDigit c = true) :
    ∃ k < 10, c = Char.ofNat (48 + k) := by
  simp only [isAsciiDigit, Bool.and_eq_true, decide_eq_true_eq] at ascii
  obtain ⟨lo, hi⟩ := ascii
  have lo' : 48 ≤ c.toNat := lo
  have hi' : c.toNat ≤ 57 := hi
  exact ⟨c.toNat - 48, by omega, by rw [Nat.add_sub_cancel' lo', Char.ofNat_toNat]⟩

/-- Every ASCII digit is a decimal digit. -/
theorem isDecimalDigit_of_isAsciiDigit {c : Char} (ascii : isAsciiDigit c = true) :
    isDecimalDigit c = true := by
  have table : ∀ k < 10, isDecimalDigit (Char.ofNat (48 + k)) = true := by decide +kernel
  obtain ⟨k, small, rfl⟩ := exists_of_isAsciiDigit ascii
  exact table k small

/-- No unit letter is an ASCII digit. -/
theorem isAsciiDigit_unit {u : Char} (unit : u ∈ units.map Prod.fst) :
    isAsciiDigit u = false := by
  cases ascii : isAsciiDigit u
  · rfl
  · have := isDecimalDigit_of_isAsciiDigit ascii
    rw [isDecimalDigit_unit unit] at this
    cases this

/-- Segments read with ASCII digits are segments of decimal digits. -/
theorem Spelled.decimal {cs : List Char} {segs : List (List Char × Char)}
    (spelled : Spelled isAsciiDigit cs segs) : Spelled isDecimalDigit cs segs := by
  obtain ⟨nonempty, wellFormed, rfl⟩ := spelled
  refine ⟨nonempty, fun seg mem => ?_, rfl⟩
  obtain ⟨digits, ascii, unit⟩ := wellFormed seg mem
  exact ⟨digits, fun c c_mem => isDecimalDigit_of_isAsciiDigit (ascii c c_mem), unit⟩

/-- A list of ASCII digits reads as its decimal value. -/
theorem readDigits_eq_some_iff (cs : List Char) (n : Nat) :
    readDigits cs = some n ↔
      cs ≠ [] ∧ (∀ c ∈ cs, isAsciiDigit c = true) ∧ digitsValue cs = n := by
  unfold readDigits
  by_cases digits : cs ≠ [] ∧ ∀ c ∈ cs, isAsciiDigit c = true
  · have test : (!cs.isEmpty && cs.all isAsciiDigit) = true := by
      simpa [List.isEmpty_iff] using digits
    simp only [test, if_true, Option.some.injEq]
    exact ⟨fun same => ⟨digits.1, digits.2, same⟩, fun ⟨_, _, same⟩ => same⟩
  · have test : (!cs.isEmpty && cs.all isAsciiDigit) = false := by
      simpa [List.isEmpty_iff] using digits
    simp only [test, Bool.false_eq_true, if_false, reduceCtorEq, false_iff]
    exact fun ⟨nonempty, ascii, _⟩ => digits ⟨nonempty, ascii⟩

/-- A text written with units is not a plain number: it holds a unit letter. -/
theorem readDigits_of_spelled {digit : Char → Bool} {cs : List Char}
    {segs : List (List Char × Char)} (spelled : Spelled digit cs segs) : readDigits cs = none := by
  obtain ⟨nonempty, wellFormed, rfl⟩ := spelled
  obtain ⟨seg, more, rfl⟩ := List.exists_cons_of_ne_nil nonempty
  have letter : isAsciiDigit seg.2 = false :=
    isAsciiDigit_unit (wellFormed seg List.mem_cons_self).2.2
  cases read : readDigits (spell (seg :: more)) with
  | none => rfl
  | some n =>
    have ascii := ((readDigits_eq_some_iff _ n).mp read).2.1 seg.2 (by simp)
    rw [letter] at ascii
    cases ascii

/-! ## Cutting a token into segments -/

/-- A run of digits is gathered into the segment being read. -/
theorem segmentsFrom_digits (acc ds rest : List Char)
    (digits : ∀ c ∈ ds, isDecimalDigit c = true) :
    segmentsFrom acc (ds ++ rest) = segmentsFrom (ds.reverse ++ acc) rest := by
  induction ds generalizing acc with
  | nil => rfl
  | cons d ds ih =>
    rw [List.cons_append, segmentsFrom, if_pos (digits d List.mem_cons_self),
      ih (d :: acc) fun c mem => digits c (List.mem_cons_of_mem d mem)]
    simp

/-- A unit letter ends the segment being read, which holds a digit. -/
theorem segmentsFrom_unit {acc : List Char} {u : Char} (rest : List Char)
    (unit : u ∈ units.map Prod.fst) (started : acc ≠ []) :
    segmentsFrom acc (u :: rest) =
      (segmentsFrom [] rest).map fun more => (acc.reverse, u) :: more := by
  obtain ⟨size, found, -⟩ := lookup_of_unit unit
  have known : (unitSeconds u).isSome = true := by simp [unitSeconds_eq_lookup, found]
  have open_ : (!acc.isEmpty) = true := by simpa [List.isEmpty_iff] using started
  rw [segmentsFrom, if_neg (by simp [isDecimalDigit_unit unit]), known, open_]
  rfl

/-- The segments of a spelled text are read back. -/
theorem segmentsFrom_spell (segs : List (List Char × Char))
    (wellFormed : ∀ seg ∈ segs, Segment isDecimalDigit seg) :
    segmentsFrom [] (spell segs) = some segs := by
  induction segs with
  | nil => rfl
  | cons seg segs ih =>
    obtain ⟨nonempty, digits, unit⟩ := wellFormed seg List.mem_cons_self
    have rest := ih fun s mem => wellFormed s (List.mem_cons_of_mem seg mem)
    rw [spell_cons, segmentsFrom_digits [] _ _ digits,
      segmentsFrom_unit _ unit (by simpa using nonempty), rest]
    simp

/-- What `segmentsFrom` reads is spelled by its segments, after the digits already read. -/
theorem spell_of_segmentsFrom {acc cs : List Char} {segs : List (List Char × Char)}
    (read : segmentsFrom acc cs = some segs) (digits : ∀ c ∈ acc, isDecimalDigit c = true) :
    (∀ seg ∈ segs, Segment isDecimalDigit seg) ∧ acc.reverse ++ cs = spell segs := by
  fun_induction segmentsFrom acc cs generalizing segs with
  | case1 acc empty =>
    cases read
    simp [List.isEmpty_iff.mp empty]
  | case2 => cases read
  | case3 acc c rest digit ih =>
    obtain ⟨wellFormed, spelled⟩ := ih read fun d mem => by
      rcases List.mem_cons.mp mem with rfl | old
      · exact digit
      · exact digits d old
    exact ⟨wellFormed, by simpa using spelled⟩
  | case4 acc c rest notDigit ended ih =>
    obtain ⟨more, found, rfl⟩ := Option.map_eq_some_iff.mp read
    obtain ⟨wellFormed, spelled⟩ := ih found (by simp)
    simp only [Bool.and_eq_true, Option.isSome_iff_exists, Bool.not_eq_true',
      List.isEmpty_eq_false_iff] at ended
    obtain ⟨⟨size, known⟩, started⟩ := ended
    have unit : c ∈ units.map Prod.fst := by
      rw [unitSeconds_eq_lookup] at known
      obtain ⟨before, after, listed, -⟩ := List.lookup_eq_some_iff.mp known
      simp [listed]
    refine ⟨fun seg mem => ?_, by simpa using spelled⟩
    rcases List.mem_cons.mp mem with rfl | later
    · exact ⟨by simpa using started, fun d mem => digits d (List.mem_reverse.mp mem), unit⟩
    · exact wellFormed seg later
  | case5 => cases read

/-- A token is cut into the segments that spell it, with digits of any script. -/
theorem segments_eq_some_iff (cs : List Char) (segs : List (List Char × Char)) :
    segments cs = some segs ↔ Spelled isDecimalDigit cs segs := by
  constructor
  · intro read
    unfold segments at read
    split at read
    · rename_i first more found
      cases read
      obtain ⟨wellFormed, spelled⟩ := spell_of_segmentsFrom found (by simp)
      exact ⟨List.cons_ne_nil _ _, wellFormed, by simpa using spelled⟩
    · cases read
  · rintro ⟨nonempty, wellFormed, rfl⟩
    obtain ⟨first, more, rfl⟩ := List.exists_cons_of_ne_nil nonempty
    rw [segments, segmentsFrom_spell _ wellFormed]

/-- A token has units exactly when, lowercased, it is spelled by segments of decimal digits
of any script. -/
theorem hasUnit_iff (t : String) :
    hasUnit t = true ↔ ∃ segs, Spelled isDecimalDigit (lowerAscii t).toList segs := by
  simp only [hasUnit, Option.isSome_iff_exists, segments_eq_some_iff]

/-! ## Checked sums -/

/-- One segment adds its seconds to the total when its digits are ASCII and the new total
stays below 2^64. The amount and the product need no check of their own: each is at most
the new total. -/
theorem addSegment_eq_some_iff {seg : List Char × Char} (total r : Nat)
    (segment : Segment isDecimalDigit seg) :
    addSegment total seg = some r ↔ (∀ c ∈ seg.1, isAsciiDigit c = true) ∧
      r = total + digitsValue seg.1 * (units.lookup seg.2).getD 0 ∧ r < 2 ^ 64 := by
  obtain ⟨nonempty, -, unit⟩ := segment
  obtain ⟨size, found, positive⟩ := lookup_of_unit unit
  have sized : unitSeconds seg.2 = some size := by rw [unitSeconds_eq_lookup, found]
  rw [found, Option.getD_some]
  by_cases ascii : ∀ c ∈ seg.1, isAsciiDigit c = true
  · have read : readDigits seg.1 = some (digitsValue seg.1) :=
      (readDigits_eq_some_iff _ _).mpr ⟨nonempty, ascii, rfl⟩
    have within : digitsValue seg.1 ≤ digitsValue seg.1 * size :=
      Nat.le_mul_of_pos_right _ positive
    simp only [addSegment, read, sized, Option.bind_eq_bind, Option.bind_some, Bool.and_eq_true,
      decide_eq_true_eq, Nat.pow_eq]
    constructor
    · intro added
      split at added
      · cases added
        exact ⟨ascii, rfl, by omega⟩
      · cases added
    · rintro ⟨-, rfl, fits⟩
      rw [if_pos ⟨⟨by omega, by omega⟩, fits⟩]
  · have read : readDigits seg.1 = none := by
      cases readDigits_eq : readDigits seg.1 with
      | none => rfl
      | some n => exact absurd ((readDigits_eq_some_iff _ n).mp readDigits_eq).2.1 ascii
    simp [addSegment, read, ascii]

/-- The checked sum over segments succeeds exactly when every segment's digits are ASCII
and the exact sum stays below 2^64. Totals only grow, so the last check implies the
earlier ones. -/
theorem foldlM_addSegment_eq_some_iff (segs : List (List Char × Char)) (total r : Nat)
    (small : total < 2 ^ 64) (wellFormed : ∀ seg ∈ segs, Segment isDecimalDigit seg) :
    segs.foldlM addSegment total = some r ↔
      (∀ seg ∈ segs, ∀ c ∈ seg.1, isAsciiDigit c = true) ∧
        r = total + segmentSeconds segs ∧ r < 2 ^ 64 := by
  induction segs generalizing total with
  | nil =>
    simp only [List.foldlM_nil, List.not_mem_nil, false_implies, implies_true,
      segmentSeconds_nil, Nat.add_zero, true_and]
    constructor
    · intro same
      cases same
      exact ⟨rfl, small⟩
    · rintro ⟨rfl, -⟩
      rfl
  | cons seg segs ih =>
    have segment := wellFormed seg List.mem_cons_self
    have others : ∀ s ∈ segs, Segment isDecimalDigit s :=
      fun s mem => wellFormed s (List.mem_cons_of_mem seg mem)
    rw [List.foldlM_cons]
    constructor
    · intro summed
      obtain ⟨next, added, rest⟩ := Option.bind_eq_some_iff.mp summed
      obtain ⟨ascii, rfl, fits⟩ := (addSegment_eq_some_iff total next segment).mp added
      obtain ⟨asciiRest, rfl, bounded⟩ := (ih _ fits others).mp rest
      refine ⟨fun s mem => ?_, by simp [Nat.add_assoc], bounded⟩
      rcases List.mem_cons.mp mem with rfl | later
      · exact ascii
      · exact asciiRest s later
    · rintro ⟨ascii, rfl, bounded⟩
      have sum := segmentSeconds_cons seg segs
      have fits : total + digitsValue seg.1 * (units.lookup seg.2).getD 0 < 2 ^ 64 := by omega
      have added := (addSegment_eq_some_iff total _ segment).mpr
        ⟨ascii seg List.mem_cons_self, rfl, fits⟩
      have rest := (ih _ fits others).mpr
        ⟨fun s mem => ascii s (List.mem_cons_of_mem seg mem), by omega, bounded⟩
      rw [added]
      exact rest

/-! ## Reading a token -/

/-- A token denotes `n` seconds exactly when `n` is below 2^64 and the token, lowercased, is
either a run of ASCII digits worth `n`, or spelled by segments of ASCII digits worth `n`
in all. -/
theorem parseToken_toNat_eq_some_iff (t : String) (n : Nat) :
    (parseToken t).map UInt64.toNat = some n ↔ n < 2 ^ 64 ∧
      (((lowerAscii t).toList ≠ [] ∧ (∀ c ∈ (lowerAscii t).toList, isAsciiDigit c = true) ∧
          digitsValue (lowerAscii t).toList = n) ∨
        ∃ segs, Spelled isAsciiDigit (lowerAscii t).toList segs ∧ segmentSeconds segs = n) := by
  unfold parseToken
  generalize (lowerAscii t).toList = cs
  cases read : readDigits cs with
  | some m =>
    obtain ⟨nonempty, ascii, rfl⟩ := (readDigits_eq_some_iff cs m).mp read
    have unspelled : ¬∃ segs, Spelled isAsciiDigit cs segs ∧ segmentSeconds segs = n :=
      fun ⟨_, spelled, _⟩ => by rw [readDigits_of_spelled spelled] at read; cases read
    simp only [read, Nat.pow_eq]
    by_cases small : digitsValue cs < 2 ^ 64
    · rw [if_pos small, Option.map_some, UInt64.toNat_ofNat_of_lt' small, Option.some.injEq]
      constructor
      · rintro rfl
        exact ⟨small, Or.inl ⟨nonempty, ascii, rfl⟩⟩
      · rintro ⟨-, ⟨-, -, same⟩ | spelled⟩
        · exact same
        · exact absurd spelled unspelled
    · rw [if_neg small, Option.map_none]
      simp only [reduceCtorEq, false_iff, not_and]
      rintro bounded (⟨-, -, rfl⟩ | spelled)
      · exact small bounded
      · exact unspelled spelled
  | none =>
    have notPlain : ¬(cs ≠ [] ∧ (∀ c ∈ cs, isAsciiDigit c = true) ∧ digitsValue cs = n) :=
      fun plain => by rw [(readDigits_eq_some_iff cs n).mpr plain] at read; cases read
    simp only [read, notPlain, false_or]
    cases cut : segments cs with
    | none =>
      simp only [Option.map_none, reduceCtorEq, false_iff, not_and, not_exists]
      intro _ segs spelled
      rw [(segments_eq_some_iff cs segs).mpr spelled.decimal] at cut
      cases cut
    | some segs =>
      obtain ⟨nonempty, wellFormed, rfl⟩ := (segments_eq_some_iff _ segs).mp cut
      have summed := fun r => foldlM_addSegment_eq_some_iff segs 0 r (by decide) wellFormed
      simp only [Option.map_map]
      constructor
      · intro parsed
        obtain ⟨r, folded, converted⟩ := Option.map_eq_some_iff.mp parsed
        obtain ⟨ascii, rfl, bounded⟩ := (summed r).mp folded
        rw [Function.comp_apply, UInt64.toNat_ofNat_of_lt' bounded, Nat.zero_add] at converted
        refine ⟨by omega, segs, ⟨nonempty, fun seg mem => ?_, rfl⟩, converted⟩
        exact ⟨(wellFormed seg mem).1, ascii seg mem, (wellFormed seg mem).2.2⟩
      · rintro ⟨bounded, segs', spelled', rfl⟩
        have same : segs' = segs := by
          have again := (segments_eq_some_iff _ segs').mpr spelled'.decimal
          rw [cut] at again
          exact (Option.some.inj again).symm
        subst same
        have folded := (summed (0 + segmentSeconds segs')).mpr
          ⟨fun seg mem => (spelled'.2.1 seg mem).2.1, rfl, by omega⟩
        rw [folded, Option.map_some, Function.comp_apply, Nat.zero_add,
          UInt64.toNat_ofNat_of_lt' bounded]

/-- Reading durations decides their grammar exactly. A token denotes `n` seconds exactly
when `n < 2^64` and, after ASCII lowercasing, the token is a non-empty run of ASCII digits
whose decimal value is `n`, or one or more segments of ASCII digits each followed by a unit
letter, whose values times their units' seconds add up to `n`; in every other case,
overflow, signs and digits of other scripts included, it denotes nothing. A token has
units exactly when, lowercased, it is spelled by such segments with the decimal digits of
any script. -/
theorem parseToken_iff_grammar (t : String) :
    (∀ n, (parseToken t).map UInt64.toNat = some n ↔ n < 2 ^ 64 ∧
      (((lowerAscii t).toList ≠ [] ∧ (∀ c ∈ (lowerAscii t).toList, isAsciiDigit c = true) ∧
          digitsValue (lowerAscii t).toList = n) ∨
        ∃ segs, Spelled isAsciiDigit (lowerAscii t).toList segs ∧ segmentSeconds segs = n)) ∧
    (hasUnit t = true ↔ ∃ segs, Spelled isDecimalDigit (lowerAscii t).toList segs) :=
  ⟨parseToken_toNat_eq_some_iff t, hasUnit_iff t⟩

end ChatBot.Duration
