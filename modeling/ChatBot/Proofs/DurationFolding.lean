import ChatBot.Proofs.DurationGrammar
import ChatBot.Proofs.Partition

/-!
# Folding duration words

A single duration argument reads its first word as a duration, then absorbs the words that
follow while each is written with units, denotes some seconds and keeps the running total
below 2^64. Two facts make this fold agree with reading one token:

* a token with units written after another adds one more run of segments, so reading the two
  together is reading each and adding the counts, with the same check against 2^64
  (`Duration.parseToken_append`);
* the fold takes the longest run of words it can (`Absorbs.longest`) and stops at the first
  word that lacks a unit, denotes nothing or would overflow; its total is the exact sum.

The main statement, `duration_fold_homomorphic_and_maximal`, puts the two together.
-/

namespace ChatBot

open Text

namespace Duration

/-- Addition of second counts that fails at 2^64 instead of wrapping around. -/
def checkedAdd (x y : UInt64) : Option UInt64 :=
  if x.toNat + y.toNat < 2 ^ 64 then some (x + y) else none

/-- Lowercasing ASCII letters of two texts one after the other. -/
theorem toList_lowerAscii_append (a b : String) :
    (lowerAscii (a ++ b)).toList = (lowerAscii a).toList ++ (lowerAscii b).toList := by
  simp [lowerAscii]

/-- Segments one after the other spell their texts one after the other. -/
theorem spell_append (xs ys : List (List Char × Char)) :
    spell (xs ++ ys) = spell xs ++ spell ys := by
  simp [spell]

/-- Two texts spelled by segments spell, written together, the segments of both. -/
theorem Spelled.append {digit : Char → Bool} {cs ds : List Char}
    {xs ys : List (List Char × Char)} (left : Spelled digit cs xs) (right : Spelled digit ds ys) :
    Spelled digit (cs ++ ds) (xs ++ ys) := by
  obtain ⟨nonempty, wellFormed, rfl⟩ := left
  obtain ⟨-, wellFormed', rfl⟩ := right
  refine ⟨by simp [nonempty], fun seg mem => ?_, (spell_append xs ys).symm⟩
  rcases List.mem_append.mp mem with here | there
  · exact wellFormed seg here
  · exact wellFormed' seg there

/-- Tokens with units, written together, have units. -/
theorem hasUnit_append {a b : String} (left : hasUnit a = true) (right : hasUnit b = true) :
    hasUnit (a ++ b) = true := by
  obtain ⟨xs, spelledA⟩ := (hasUnit_iff a).mp left
  obtain ⟨ys, spelledB⟩ := (hasUnit_iff b).mp right
  rw [hasUnit_iff, toList_lowerAscii_append]
  exact ⟨xs ++ ys, spelledA.append spelledB⟩

/-- A token spelled by segments denotes the checked sum over them. -/
theorem parseToken_of_spelled {t : String} {segs : List (List Char × Char)}
    (spelled : Spelled isDecimalDigit (lowerAscii t).toList segs) :
    parseToken t = (segs.foldlM addSegment 0).map Nat.toUInt64 := by
  have cut := (segments_eq_some_iff _ segs).mpr spelled
  simp only [parseToken, readDigits_of_spelled spelled, cut]

/-- A checked sum over segments started at `total` is the sum started at zero, with `total`
added at the end under the same check: the totals only grow, so one check at the end
decides every intermediate one. -/
theorem foldlM_addSegment_from (segs : List (List Char × Char)) {total : Nat}
    (small : total < 2 ^ 64) (wellFormed : ∀ seg ∈ segs, Segment isDecimalDigit seg) :
    segs.foldlM addSegment total =
      (segs.foldlM addSegment 0).bind fun s =>
        if total + s < 2 ^ 64 then some (total + s) else none := by
  apply Option.ext
  intro r
  rw [foldlM_addSegment_eq_some_iff segs total r small wellFormed, Option.bind_eq_some_iff]
  constructor
  · rintro ⟨ascii, rfl, bounded⟩
    have summed := (foldlM_addSegment_eq_some_iff segs 0 (segmentSeconds segs) (by decide)
      wellFormed).mpr ⟨ascii, by simp, by omega⟩
    exact ⟨segmentSeconds segs, summed, if_pos bounded⟩
  · rintro ⟨s, summed, added⟩
    obtain ⟨ascii, rfl, -⟩ :=
      (foldlM_addSegment_eq_some_iff segs 0 s (by decide) wellFormed).mp summed
    split at added
    · cases added
      exact ⟨ascii, by simp, by omega⟩
    · cases added

/-- A checked sum over well-formed segments, started at zero, is below 2^64. -/
theorem lt_of_foldlM_addSegment {segs : List (List Char × Char)} {x : Nat}
    (wellFormed : ∀ seg ∈ segs, Segment isDecimalDigit seg)
    (summed : segs.foldlM addSegment 0 = some x) : x < 2 ^ 64 :=
  ((foldlM_addSegment_eq_some_iff segs 0 x (by decide) wellFormed).mp summed).2.2

/-- Reading two tokens with units written together is reading each and adding the counts,
failing when either fails or when the sum reaches 2^64: `1h30m` denotes what the words
`1h` and `30m` denote together. -/
theorem parseToken_append {a b : String} (left : hasUnit a = true) (right : hasUnit b = true) :
    parseToken (a ++ b) = (parseToken a).bind fun x => (parseToken b).bind (checkedAdd x) := by
  obtain ⟨xs, spelledA⟩ := (hasUnit_iff a).mp left
  obtain ⟨ys, spelledB⟩ := (hasUnit_iff b).mp right
  have spelled : Spelled isDecimalDigit (lowerAscii (a ++ b)).toList (xs ++ ys) := by
    rw [toList_lowerAscii_append]
    exact spelledA.append spelledB
  rw [parseToken_of_spelled spelled, parseToken_of_spelled spelledA,
    parseToken_of_spelled spelledB, List.foldlM_append]
  cases first : xs.foldlM addSegment 0 with
  | none => rfl
  | some x =>
    have small := lt_of_foldlM_addSegment spelledA.2.1 first
    simp only [Option.bind_eq_bind, Option.bind_some, Option.map_some,
      foldlM_addSegment_from ys small spelledB.2.1]
    cases second : ys.foldlM addSegment 0 with
    | none => rfl
    | some y =>
      have small' := lt_of_foldlM_addSegment spelledB.2.1 second
      simp only [Option.bind_some, Option.map_some, checkedAdd, UInt64.toNat_ofNat_of_lt' small,
        UInt64.toNat_ofNat_of_lt' small']
      split
      · rw [Option.map_some]
        exact congrArg some (UInt64.ofNat_add x y)
      · rfl

end Duration

namespace Reading

/-- `Absorbs total run final`: a duration at `total` seconds takes every word of `run` in
order, each written with units, denoting some seconds and keeping the running total below
2^64, and ends at `final` seconds. -/
inductive Absorbs : Nat → List String → Nat → Prop
  | nil (total : Nat) : Absorbs total [] total
  | cons {total final : Nat} {t : String} {run : List String} (s : UInt64) :
      Duration.hasUnit t = true → Duration.parseToken t = some s → total + s.toNat < 2 ^ 64 →
      Absorbs (total + s.toNat) run final → Absorbs total (t :: run) final

/-- A sum of two 64-bit numbers that does not overflow is their sum. -/
theorem toNat_add_of_lt {x y : UInt64} (fits : x.toNat + y.toNat < 2 ^ 64) :
    (x + y).toNat = x.toNat + y.toNat := by
  rw [UInt64.toNat_add, Nat.mod_eq_of_lt fits]

/-- Whatever the words, the fold absorbs a run from their front and stops right after it,
having used one word more per word of the run. -/
theorem absorbDurations_absorbs (total : UInt64) (used : Nat) (tokens : List String) :
    ∃ run after, tokens = run ++ after ∧
      Absorbs total.toNat run (absorbDurations total used tokens).1.toNat ∧
      (absorbDurations total used tokens).2 = used + run.length ∧
      FoldStops (absorbDurations total used tokens).1.toNat after := by
  induction tokens generalizing total used with
  | nil => exact ⟨[], [], rfl, Absorbs.nil _, rfl, by simp [FoldStops]⟩
  | cons t rest ih =>
    rcases foldStops_or_fits total t rest with stops | ⟨s, unit, parsed, fits⟩
    · rw [absorbDurations_cons_of_stops rest stops]
      exact ⟨[], t :: rest, rfl, Absorbs.nil _, rfl, stops⟩
    · rw [absorbDurations_cons_of_fits rest unit parsed fits]
      obtain ⟨run, after, rfl, absorbs, counted, stops⟩ := ih (total + s) (used + 1)
      rw [toNat_add_of_lt fits] at absorbs
      refine ⟨t :: run, after, rfl, Absorbs.cons s unit parsed fits absorbs, ?_, stops⟩
      rw [counted, List.length_cons]
      omega

/-- The fold takes the longest run it can: no run that a duration at the same total could
absorb from the same words is longer, since the word after the fold's run cannot be taken
at the total the fold reached there. -/
theorem Absorbs.longest {total final : Nat} {run after : List String}
    (absorbs : Absorbs total run final) (stops : FoldStops final after) {other : List String}
    {final' : Nat} (front : other <+: run ++ after) (absorbs' : Absorbs total other final') :
    other.length ≤ run.length := by
  induction absorbs generalizing other final' with
  | nil total =>
    cases absorbs' with
    | nil => exact Nat.le_refl 0
    | cons s unit parsed fits _ =>
      obtain ⟨rest, spelled⟩ := front
      rw [List.nil_append] at spelled
      subst spelled
      exact absurd fits (Nat.not_lt.mpr (stops _ rfl unit s parsed))
  | cons s unit parsed fits rest ih =>
    cases absorbs' with
    | nil => exact Nat.zero_le _
    | cons s' unit' parsed' fits' rest' =>
      obtain ⟨sameWord, front'⟩ := List.cons_prefix_cons.mp front
      subst sameWord
      have sameSeconds : s' = s := Option.some.inj (parsed'.symm.trans parsed)
      subst sameSeconds
      exact Nat.succ_le_succ (ih stops front' rest')

/-- When the first word has units, the words a duration absorbs, written together after it,
read as the total the fold reaches. -/
theorem Absorbs.parseToken_join {total final : Nat} {run : List String}
    (absorbs : Absorbs total run final) {t : String} (unit : Duration.hasUnit t = true)
    (parsed : (Duration.parseToken t).map UInt64.toNat = some total) :
    (Duration.parseToken (String.join (t :: run))).map UInt64.toNat = some final := by
  induction absorbs generalizing t with
  | nil total => simpa using parsed
  | @cons total final u run s unit' parsed' fits rest ih =>
    obtain ⟨x, first, rfl⟩ := Option.map_eq_some_iff.mp parsed
    have joined : (Duration.parseToken (t ++ u)).map UInt64.toNat = some (x.toNat + s.toNat) := by
      rw [Duration.parseToken_append unit unit', first, Option.bind_some, parsed',
        Option.bind_some, Duration.checkedAdd, if_pos fits, Option.map_some,
        toNat_add_of_lt fits]
    have longer := ih (Duration.hasUnit_append unit unit') joined
    simpa [String.join_cons, String.append_assoc] using longer

/-- Folding duration words is checked addition that stops at the right word. Two tokens with
units, written together, denote the checked sum of what each denotes, so `1h30m` and the
words `1h`, `30m` denote the same. A single duration argument reads from the words
`t :: rest` exactly when `t` denotes some seconds `v0`. It then takes `t` and the longest
run of following words that each have units, each denote some seconds and keep the running
total below 2^64; its value is that exact total, and the word after the run, which lacks a
unit, denotes nothing or would overflow, is left. When `t` has units, the words taken,
written together, denote the same total. -/
theorem duration_fold_homomorphic_and_maximal :
    (∀ a b : String, Duration.hasUnit a = true → Duration.hasUnit b = true →
      Duration.parseToken (a ++ b) =
        (Duration.parseToken a).bind fun x =>
          (Duration.parseToken b).bind (Duration.checkedAdd x)) ∧
    ∀ (ctx : Context) (t : String) (rest : List String),
      (takeOne ctx .duration (t :: rest) = none ↔ Duration.parseToken t = none) ∧
      ∀ v0, Duration.parseToken t = some v0 →
        ∃ v run after, takeOne ctx .duration (t :: rest) = some (.duration v, run.length + 1) ∧
          rest = run ++ after ∧ Absorbs v0.toNat run v.toNat ∧ FoldStops v.toNat after ∧
          (∀ other final, other <+: rest → Absorbs v0.toNat other final →
            other.length ≤ run.length) ∧
          (Duration.hasUnit t = true → Duration.parseToken (String.join (t :: run)) = some v) := by
  refine ⟨fun a b => Duration.parseToken_append, fun ctx t rest => ⟨?_, ?_⟩⟩
  · simp [takeOne]
  · intro v0 parsed
    obtain ⟨run, after, split, absorbs, counted, stops⟩ := absorbDurations_absorbs v0 1 rest
    refine ⟨(absorbDurations v0 1 rest).1, run, after, ?_, split, absorbs, stops, ?_, ?_⟩
    · simp [takeOne, parsed, counted, Nat.add_comm]
    · intro other final front absorbs'
      exact absorbs.longest stops (split ▸ front) absorbs'
    · intro unit
      have joined := absorbs.parseToken_join unit (by simp [parsed])
      obtain ⟨w, found, same⟩ := Option.map_eq_some_iff.mp joined
      rw [found, UInt64.toNat_inj.mp same]

/-- `1h 30m` is one duration of 5400 seconds; the bare `5` after it ends the run. -/
example : (takeOne {} .duration ["1h", "30m", "5", "2m"]).map (fun r => (r.1.asDuration?, r.2)) =
    some (some 5400, 2) := by
  decide +kernel

end Reading

end ChatBot
