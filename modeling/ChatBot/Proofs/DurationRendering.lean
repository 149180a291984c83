import ChatBot.Demo
import ChatBot.Proofs.DurationGrammar
import ChatBot.Proofs.Recompile

/-!
# Rendered durations read back

The demonstration bot writes a number of seconds as whole days, then the hours, minutes and
seconds left over: each part is its count in decimal followed by its unit letter, the parts
that are zero are left out and single spaces separate the others; no time at all is `0s`
(`Demo.formatDuration`). Its table of units has no weeks, but each part is still a duration
token with a unit, worth its count times the unit's seconds.

The main statement, `formatDuration_reads_back`, holds for every 64-bit number of seconds,
the largest included: reading the written words as one duration argument takes all of them
and gives the number back exactly, and so does reading the parts written together as one
token. It rests on `rendered_parts_read_back`, which says the same of any list of parts
whose total stays below 2^64, since no running sum of the fold can then reach 2^64.
-/

namespace ChatBot

open Text Duration

namespace Demo

/-- One step of the renderer, over a unit of `unit.2` seconds: when at least that many
seconds are left, the part is written and the seconds below the unit are kept. -/
def renderStep (acc : List String × Nat) (unit : String × Nat) : List String × Nat :=
  if acc.2 ≥ unit.2 then (acc.1 ++ [toString (acc.2 / unit.2) ++ unit.1], acc.2 % unit.2) else acc

/-- The rendering is the fold of `renderStep` over the units, largest first. -/
theorem formatDuration_eq_foldl (s : Nat) :
    formatDuration s = if s = 0 then "0s" else " ".intercalate
      ([("d", 86400), ("h", 3600), ("m", 60), ("s", 1)].foldl renderStep ([], s)).1 :=
  rfl

/-- A part of a duration as a word: its count in decimal, then its unit letter. -/
def partText (p : Nat × Char) : String :=
  toString p.1 ++ String.singleton p.2

/-- The parts of a number of seconds, largest unit first: the whole days, then the hours
below a day, the minutes below an hour and the seconds below a minute. -/
def clockParts (s : Nat) : List (Nat × Char) :=
  [(s / 86400, 'd'), (s % 86400 / 3600, 'h'), (s % 3600 / 60, 'm'), (s % 60, 's')]

/-- A step writes the part of its unit exactly when the part's count is positive. -/
theorem renderStep_eq (parts : List String) (rest : Nat) (unit : Char) {size : Nat}
    (pos : 0 < size) :
    renderStep (parts, rest) (String.singleton unit, size) =
      (parts ++ ([(rest / size, unit)].filter (0 < ·.1)).map partText, rest % size) := by
  unfold renderStep
  by_cases enough : rest ≥ size
  · have counted : 0 < rest / size := Nat.div_pos enough pos
    simp [enough, counted, partText]
  · have none_ : rest / size = 0 := Nat.div_eq_of_lt (by omega)
    simp [enough, none_, Nat.mod_eq_of_lt (by omega : rest < size)]

/-- The rendered text in closed form: the clock parts that are not zero, joined by single
spaces. The seconds kept after each step are those below its unit, since each unit's size
divides the one before. -/
theorem formatDuration_eq {s : Nat} (pos : s ≠ 0) :
    formatDuration s = " ".intercalate (((clockParts s).filter (0 < ·.1)).map partText) := by
  have hours : s % 86400 % 3600 = s % 3600 := Nat.mod_mod_of_dvd s (by decide)
  have minutes : s % 3600 % 60 = s % 60 := Nat.mod_mod_of_dvd s (by decide)
  have letters : [("d", 86400), ("h", 3600), ("m", 60), ("s", 1)] =
      [(String.singleton 'd', 86400), (String.singleton 'h', 3600), (String.singleton 'm', 60),
        (String.singleton 's', 1)] := rfl
  rw [formatDuration_eq_foldl, if_neg pos, letters]
  simp only [List.foldl_cons, List.foldl_nil, renderStep_eq _ _ _ (by decide : 0 < 86400),
    renderStep_eq _ _ _ (by decide : 0 < 3600), renderStep_eq _ _ _ (by decide : 0 < 60),
    renderStep_eq _ _ _ (by decide : 0 < 1), hours, minutes, Nat.div_one]
  simp only [clockParts, ← List.map_append, ← List.filter_append, List.nil_append,
    List.cons_append]

end Demo

namespace Duration

open Demo

/-- The seconds that parts denote: each count times the seconds of its unit. -/
def partSeconds (ps : List (Nat × Char)) : Nat :=
  (ps.map fun p => p.1 * (units.lookup p.2).getD 0).sum

/-- The segment a part is written as: the decimal digits of its count, then its unit
letter. -/
def partSegment (p : Nat × Char) : List Char × Char :=
  (Nat.toDigits 10 p.1, p.2)

/-- No parts are worth no seconds. -/
@[simp] theorem partSeconds_nil : partSeconds [] = 0 := rfl

/-- A part is worth its count times its unit's seconds, added to the rest. -/
@[simp] theorem partSeconds_cons (p : Nat × Char) (ps : List (Nat × Char)) :
    partSeconds (p :: ps) = p.1 * (units.lookup p.2).getD 0 + partSeconds ps := by
  simp [partSeconds]

/-- Parts of count zero denote nothing, so leaving them out keeps the total. -/
theorem partSeconds_filter_pos (ps : List (Nat × Char)) :
    partSeconds (ps.filter (0 < ·.1)) = partSeconds ps := by
  induction ps with
  | nil => rfl
  | cons p ps ih =>
    by_cases counted : 0 < p.1
    · simp [counted, ih]
    · have zero : p.1 = 0 := by omega
      simp [zero, ih]

/-- The clock parts add up to the number they are taken from. -/
theorem partSeconds_clockParts (s : Nat) : partSeconds (clockParts s) = s := by
  simp only [clockParts, partSeconds_cons, partSeconds_nil, units, List.lookup, beq_self_eq_true]
  simp
  omega

/-- A part is written as its count's decimal digits and its unit letter. -/
theorem partText_toList (p : Nat × Char) : (partText p).toList = Nat.toDigits 10 p.1 ++ [p.2] := by
  simp [partText, Nat.toString_eq_repr, Nat.toList_repr]

/-- A part with a unit letter is a segment of ASCII digits. -/
theorem partSegment_segment {p : Nat × Char} (lettered : p.2 ∈ units.map Prod.fst) :
    Segment isAsciiDigit (partSegment p) :=
  ⟨Nat.toDigits_ne_nil, fun _ mem => Nat.isDigit_of_mem_toDigits (by decide) (by decide) mem,
    lettered⟩

/-- The decimal digits of a number read back as the number. -/
theorem digitsValue_toDigits (v : Nat) : digitsValue (Nat.toDigits 10 v) = v :=
  Nat.ofDigitChars_toDigits (by decide) (by decide)

/-- A property of characters that holds of the ten ASCII digits and of the unit letters
holds of every character of a text spelled by segments of ASCII digits. -/
theorem spell_all {segs : List (List Char × Char)}
    (wellFormed : ∀ seg ∈ segs, Segment isAsciiDigit seg) (P : Char → Bool)
    (digits : ∀ k < 10, P (Char.ofNat (48 + k)) = true)
    (letters : (units.all fun u => P u.1) = true) : ∀ c ∈ spell segs, P c = true := by
  intro c mem
  rw [spell, List.mem_flatMap] at mem
  obtain ⟨seg, member, inSeg⟩ := mem
  obtain ⟨-, ascii, lettered⟩ := wellFormed seg member
  rcases List.mem_append.mp inSeg with digit | letter
  · obtain ⟨k, small, rfl⟩ := exists_of_isAsciiDigit (ascii c digit)
    exact digits k small
  · rw [List.mem_singleton] at letter
    subst letter
    obtain ⟨u, listed, same⟩ := List.mem_map.mp lettered
    rw [← same]
    exact List.all_eq_true.mp letters u listed

/-- ASCII lowercasing keeps a text spelled by segments of ASCII digits: it holds digits and
lowercase unit letters only. -/
theorem lowerAscii_of_spell {t : String} {segs : List (List Char × Char)}
    (wellFormed : ∀ seg ∈ segs, Segment isAsciiDigit seg) (spelled : t.toList = spell segs) :
    lowerAscii t = t := by
  have kept : ∀ c ∈ t.toList, lowerAsciiChar c = c := by
    intro c mem
    rw [spelled] at mem
    simpa using spell_all wellFormed (fun c => lowerAsciiChar c == c) (by decide +kernel)
      (by decide +kernel) c mem
  rw [lowerAscii, List.map_congr_left kept, List.map_id', String.ofList_toList]

/-- Written together, parts spell their segments. -/
theorem join_partText_toList (ps : List (Nat × Char)) :
    (String.join (ps.map partText)).toList = spell (ps.map partSegment) := by
  induction ps with
  | nil => rfl
  | cons p ps ih =>
    simp only [List.map_cons, String.join_cons, String.toList_append, ih, spell_cons,
      partText_toList, partSegment, List.append_assoc, List.singleton_append]

/-- The parts read as segments are worth what the parts are worth. -/
theorem segmentSeconds_map_partSegment (ps : List (Nat × Char)) :
    segmentSeconds (ps.map partSegment) = partSeconds ps := by
  induction ps with
  | nil => rfl
  | cons p ps ih => simp [partSegment, digitsValue_toDigits, ih]

/-- Parts with unit letters, written together, are spelled by their segments. -/
theorem join_partText_spelled {ps : List (Nat × Char)} (nonempty : ps ≠ [])
    (lettered : ∀ p ∈ ps, p.2 ∈ units.map Prod.fst) :
    Spelled isAsciiDigit (lowerAscii (String.join (ps.map partText))).toList
      (ps.map partSegment) := by
  have wellFormed : ∀ seg ∈ ps.map partSegment, Segment isAsciiDigit seg := by
    intro seg mem
    obtain ⟨p, member, rfl⟩ := List.mem_map.mp mem
    exact partSegment_segment (lettered p member)
  rw [lowerAscii_of_spell wellFormed (join_partText_toList ps)]
  exact ⟨by simpa using nonempty, wellFormed, join_partText_toList ps⟩

/-- Parts with unit letters, written together, read as their total when it is below
2^64. -/
theorem parseToken_join_partText {ps : List (Nat × Char)} (nonempty : ps ≠ [])
    (lettered : ∀ p ∈ ps, p.2 ∈ units.map Prod.fst) (fits : partSeconds ps < 2 ^ 64) :
    (parseToken (String.join (ps.map partText))).map UInt64.toNat = some (partSeconds ps) :=
  (parseToken_toNat_eq_some_iff _ _).mpr
    ⟨fits, Or.inr ⟨_, join_partText_spelled nonempty lettered, segmentSeconds_map_partSegment ps⟩⟩

/-- A part with a unit letter reads as its count times its unit's seconds. -/
theorem parseToken_partText {p : Nat × Char} (lettered : p.2 ∈ units.map Prod.fst)
    (fits : partSeconds [p] < 2 ^ 64) :
    (parseToken (partText p)).map UInt64.toNat = some (partSeconds [p]) := by
  simpa using parseToken_join_partText (List.cons_ne_nil p []) (by simpa using lettered) fits

/-- A part with a unit letter is a token with a unit. -/
theorem hasUnit_partText {p : Nat × Char} (lettered : p.2 ∈ units.map Prod.fst) :
    hasUnit (partText p) = true := by
  have spelled := join_partText_spelled (List.cons_ne_nil p []) (by simpa using lettered)
  exact (hasUnit_iff _).mpr ⟨_, by simpa using spelled.decimal⟩

/-- Words without blanks: a part is digits and a unit letter. -/
theorem partText_blankFree {p : Nat × Char} (lettered : p.2 ∈ units.map Prod.fst) :
    ∀ c ∈ (partText p).toList, isBlank c = false := by
  intro c mem
  have spelled : (partText p).toList = spell [partSegment p] := by
    rw [partText_toList, spell_cons, spell_nil]
    rfl
  rw [spelled] at mem
  simpa using spell_all (by simpa using partSegment_segment lettered) (fun c => !isBlank c)
    (by decide +kernel) (by decide +kernel) c mem

/-- One part denotes at most what all parts do. -/
theorem partSeconds_single_le {q : Nat × Char} {ps : List (Nat × Char)} (member : q ∈ ps) :
    partSeconds [q] ≤ partSeconds ps := by
  induction ps with
  | nil => cases member
  | cons p ps ih =>
    rcases List.mem_cons.mp member with rfl | later
    · simp
    · have := ih later
      simp only [partSeconds_cons] at this ⊢
      omega

/-- Parts denote the sum of what each part does alone. -/
theorem partSeconds_eq_sum (ps : List (Nat × Char)) :
    partSeconds ps = (ps.map fun p => partSeconds [p]).sum := by
  induction ps with
  | nil => rfl
  | cons p ps ih => simp [ih]

end Duration

namespace Reading

open Demo

/-- Given words that all have units and read, whose seconds added to `total` stay below
2^64, the duration fold takes every word and adds their seconds exactly: no running sum
can reach 2^64 before the last. -/
theorem absorbDurations_of_units (total : UInt64) (used : Nat) {tokens : List String}
    {values : List Nat}
    (read : List.Forall₂
      (fun t v => hasUnit t = true ∧ (parseToken t).map UInt64.toNat = some v) tokens values)
    (fits : total.toNat + values.sum < 2 ^ 64) :
    (absorbDurations total used tokens).1.toNat = total.toNat + values.sum ∧
      (absorbDurations total used tokens).2 = used + tokens.length := by
  induction read generalizing total used with
  | nil => simp [absorbDurations]
  | @cons t v ts vs first rest ih =>
    obtain ⟨unit, mapped⟩ := first
    obtain ⟨s, parsed, rfl⟩ := Option.map_eq_some_iff.mp mapped
    rw [List.sum_cons] at fits
    have step : total.toNat + s.toNat < 2 ^ 64 := by omega
    have added : (total + s).toNat = total.toNat + s.toNat := by
      rw [UInt64.toNat_add, Nat.mod_eq_of_lt step]
    rw [absorbDurations_cons_of_fits ts unit parsed step]
    obtain ⟨summed, counted⟩ := ih (total + s) (used + 1) (by omega)
    rw [summed, added, counted, List.sum_cons, List.length_cons]
    omega

/-- Parts with unit letters, read as a single duration argument, are taken whole: the first
part starts the fold and every other one is added, their total being below 2^64. -/
theorem takeOne_partText {ps : List (Nat × Char)} (nonempty : ps ≠ [])
    (lettered : ∀ p ∈ ps, p.2 ∈ units.map Prod.fst) (fits : partSeconds ps < 2 ^ 64)
    (ctx : Context) :
    takeOne ctx .duration (ps.map partText) =
      some (.duration (partSeconds ps).toUInt64, ps.length) := by
  obtain ⟨p, rest, rfl⟩ := List.exists_cons_of_ne_nil nonempty
  have single : ∀ q ∈ p :: rest, partSeconds [q] < 2 ^ 64 := by
    intro q member
    have within := partSeconds_single_le member
    omega
  obtain ⟨first, parsed, firstSeconds⟩ := Option.map_eq_some_iff.mp
    (parseToken_partText (lettered p List.mem_cons_self) (single p List.mem_cons_self))
  have read : List.Forall₂
      (fun t v => hasUnit t = true ∧ (parseToken t).map UInt64.toNat = some v)
      (rest.map partText) (rest.map fun q => partSeconds [q]) := by
    refine List.forall₂_map_left_iff.mpr (List.forall₂_map_right_iff.mpr
      (List.forall₂_same.mpr fun q member => ?_))
    have later : q ∈ p :: rest := List.mem_cons_of_mem p member
    exact ⟨hasUnit_partText (lettered q later),
      parseToken_partText (lettered q later) (single q later)⟩
  have total :
      partSeconds (p :: rest) = first.toNat + (rest.map fun q => partSeconds [q]).sum := by
    rw [firstSeconds, ← partSeconds_eq_sum, partSeconds_cons, partSeconds_cons, partSeconds_nil,
      Nat.add_zero]
  obtain ⟨summed, counted⟩ := absorbDurations_of_units first 1 read (by omega)
  simp only [List.map_cons, takeOne, parsed, Option.map_some, List.length_cons]
  cases folded : absorbDurations first 1 (rest.map partText) with
  | mk sum used =>
    rw [folded] at summed counted
    dsimp only at summed counted
    have same : sum = (partSeconds (p :: rest)).toUInt64 := by
      rw [← UInt64.toNat_inj, UInt64.toNat_ofNat_of_lt' fits, total]
      exact summed
    simp [same, counted, Nat.add_comm]

/-- Parts with unit letters whose total is below 2^64, written with single spaces, are read
back: the words are the parts, each has a unit, a duration argument takes all of them with
their total as its value, and the parts written together read as that total too. -/
theorem rendered_parts_read_back {ps : List (Nat × Char)} (nonempty : ps ≠ [])
    (lettered : ∀ p ∈ ps, p.2 ∈ units.map Prod.fst) (fits : partSeconds ps < 2 ^ 64)
    (ctx : Context) :
    words (" ".intercalate (ps.map partText)) = ps.map partText ∧
      (∀ w ∈ ps.map partText, hasUnit w = true) ∧
      takeOne ctx .duration (ps.map partText) =
        some (.duration (partSeconds ps).toUInt64, ps.length) ∧
      parseToken (String.join (ps.map partText)) = some (partSeconds ps).toUInt64 := by
  refine ⟨words_intercalate_space _ fun w member => ?_, fun w member => ?_,
    takeOne_partText nonempty lettered fits ctx, ?_⟩
  · obtain ⟨p, listed, rfl⟩ := List.mem_map.mp member
    refine ⟨partText_blankFree (lettered p listed), fun empty => ?_⟩
    have spelled := partText_toList p
    rw [empty] at spelled
    simp at spelled
  · obtain ⟨p, listed, rfl⟩ := List.mem_map.mp member
    exact hasUnit_partText (lettered p listed)
  · obtain ⟨value, parsed, same⟩ := Option.map_eq_some_iff.mp
      (parseToken_join_partText nonempty lettered fits)
    rw [parsed, Option.some.injEq, ← UInt64.toNat_inj, UInt64.toNat_ofNat_of_lt' fits, same]

end Reading


namespace Demo

open Duration Reading

/-- The renderer writes parts with unit letters that add up to the number of seconds: the
clock parts that are not zero, or the single part `0s`. -/
theorem formatDuration_parts (s : Nat) :
    ∃ ps : List (Nat × Char), formatDuration s = " ".intercalate (ps.map partText) ∧
      ps ≠ [] ∧ (∀ p ∈ ps, p.2 ∈ units.map Prod.fst) ∧ partSeconds ps = s := by
  by_cases zero : s = 0
  · subst zero
    exact ⟨[(0, 's')], rfl, by simp, by simp [units], by simp [units]⟩
  · refine ⟨(clockParts s).filter (0 < ·.1), formatDuration_eq zero, fun empty => ?_,
      fun p member => ?_, by rw [partSeconds_filter_pos, partSeconds_clockParts]⟩
    · -- Some clock part is not zero, since together they make up `s`.
      have total := partSeconds_filter_pos (clockParts s)
      rw [empty, partSeconds_clockParts, partSeconds_nil] at total
      exact zero total.symm
    · have listed := (List.mem_filter.mp member).1
      simp only [clockParts, List.mem_cons, List.not_mem_nil, or_false] at listed
      rcases listed with rfl | rfl | rfl | rfl <;> simp [units]

/-- Rendered durations read back exactly. For every 64-bit number of seconds `s`, the text
is `0s` when `s` is zero; otherwise it is the parts of `s`: days, hours below 24, minutes
below 60 and seconds below 60, largest unit first, those that are zero left out, each its
count in decimal followed by its unit letter, with single spaces between them. The text has
words, is those words joined by single spaces, and each word has a unit. A duration
argument takes all of the words and reads `s`, and the words written together read as `s`
too. -/
theorem formatDuration_reads_back (s : UInt64) (ctx : Context) :
    let text := formatDuration s.toNat
    (s = 0 → text = "0s") ∧
    (s ≠ 0 → ∃ d h m sec, h < 24 ∧ m < 60 ∧ sec < 60 ∧
      s.toNat = 86400 * d + 3600 * h + 60 * m + sec ∧
      text = " ".intercalate
        (([(d, 'd'), (h, 'h'), (m, 'm'), (sec, 's')].filter (0 < ·.1)).map partText)) ∧
    words text ≠ [] ∧ " ".intercalate (words text) = text ∧ (∀ w ∈ words text, hasUnit w = true) ∧
    takeOne ctx .duration (words text) = some (.duration s, (words text).length) ∧
    parseToken (String.join (words text)) = some s := by
  intro text
  obtain ⟨ps, written, nonempty, lettered, total⟩ := formatDuration_parts s.toNat
  have fits : partSeconds ps < 2 ^ 64 := total ▸ s.toNat_lt
  have value : (partSeconds ps).toUInt64 = s := by
    rw [← UInt64.toNat_inj, UInt64.toNat_ofNat_of_lt' fits, total]
  obtain ⟨spaced, lettered', taken, joined⟩ :=
    rendered_parts_read_back nonempty lettered fits ctx
  have split : words text = ps.map partText := by rw [← spaced, ← written]
  refine ⟨fun zero => by subst zero; rfl, fun pos => ?_, by simpa [split] using nonempty,
    by rw [split, ← written], by rwa [split], by rw [split, taken, value, List.length_map],
    by rw [split, joined, value]⟩
  have positive : s.toNat ≠ 0 := fun zero => pos (UInt64.toNat_inj.mp (by rw [zero]; rfl))
  exact ⟨s.toNat / 86400, s.toNat % 86400 / 3600, s.toNat % 3600 / 60, s.toNat % 60,
    by omega, by omega, by omega, by omega, formatDuration_eq positive⟩

example : formatDuration 5400 = "1h 30m" ∧
    formatDuration 18446744073709551615 = "213503982334601d 7h 15s" := by
  decide

end Demo

end ChatBot
