import Mathlib
import ChatBot.Proofs.Flags

/-!
# Positional reading partitions the words

The positional parameters read the words left by the flag pass from the left, sharing
one cursor. Reading succeeds only if, parameter by parameter up to the first text one,
the words split into consecutive spans: a parameter that is absent from the result took
an empty span, and a present one took a non-empty span that decodes to its value. No
word is skipped or read twice, and the words after the last span are left unread.

What a span decodes to is stated by kind, without the reading functions:

* text takes every word left, joined by single spaces;
* a list takes words while each reads as an item, and the next word, if any, does not;
* a single duration takes its first word and then the following words with units, while
  each denotes some seconds and the total stays below 2^64; its value is the exact sum;
* any other kind takes one word: a word as it is, a number of ASCII digits below 2^63, a
  command whose name or alias is the lowercased word, or the entity the resolver gives.
-/

namespace ChatBot

open Text

namespace Reading

variable {ctx : Context}

/-- What a single word reads as, for the kinds read one word at a time. -/
inductive Item (ctx : Context) : Kind → String → Value → Prop
  | word (t : String) : Item ctx .word t (.word t)
  | digit (t : String) : t.toList ≠ [] → t.toList.all isAsciiDigit →
      digitsValue t.toList ≤ 2 ^ 63 - 1 →
      Item ctx .digit t (.digit (Int64.ofNat (digitsValue t.toList)))
  | duration (t : String) (seconds : UInt64) : Duration.parseToken t = some seconds →
      Item ctx .duration t (.duration seconds)
  | command (t : String) (registry : Registry Unit) (c : Command Unit) :
      ctx.commands = some registry → registry.get? (lower t) = some c →
      Item ctx .command t (.command c)
  | entity (k : Kind) (t : String) (e : Entity) : k.isEntity = true →
      ctx.resolver.resolve k t = some e → Item ctx k t (.entity e)

/-- A duration fold with the running total `total` stops before `rest`: there is no next
word, or it has no unit, or it denotes nothing, or adding it would reach 2^64 seconds. -/
def FoldStops (total : Nat) (rest : List String) : Prop :=
  ∀ u ∈ rest.head?, Duration.hasUnit u = true → ∀ s, Duration.parseToken u = some s →
    2 ^ 64 ≤ total + s.toNat

/-- `Decodes ctx p span rest v`: the parameter `p`, reading from the front of `span ++ rest`,
takes exactly the words `span` and reads the value `v`. -/
inductive Decodes (ctx : Context) (p : Parameter) : List String → List String → Value → Prop
  | text (span : List String) : p.kind = .text → span ≠ [] →
      Decodes ctx p span [] (.text (" ".intercalate span))
  | list (span rest : List String) (items : List Value) : p.kind ≠ .text → p.repeated = true →
      span ≠ [] → List.Forall₂ (Item ctx p.kind) span items →
      (∀ u ∈ rest.head?, ∀ v, ¬Item ctx p.kind u v) → Decodes ctx p span rest (.list items)
  | single (t : String) (rest : List String) (v : Value) : p.kind ≠ .duration →
      p.repeated = false → Item ctx p.kind t v → Decodes ctx p [t] rest v
  | duration (t : String) (more rest : List String) (first total : UInt64)
      (seconds : List UInt64) : p.kind = .duration → p.repeated = false →
      Duration.parseToken t = some first → (∀ u ∈ more, Duration.hasUnit u = true) →
      List.Forall₂ (fun u s => Duration.parseToken u = some s) more seconds →
      total.toNat = first.toNat + (seconds.map UInt64.toNat).sum →
      FoldStops total.toNat rest → Decodes ctx p (t :: more) rest (.duration total)

/-- The words split, parameter by parameter, into consecutive spans: an absent parameter
takes none, a present one a non-empty span it decodes to its stored value; the words
after the last span are left over. -/
inductive Partition (ctx : Context) (r : Bindings) : List Parameter → List String → Prop
  | nil (rest : List String) : Partition ctx r [] rest
  | absent (p : Parameter) (ps : List Parameter) (tokens : List String) :
      r.entries.lookup p.name = none → Partition ctx r ps tokens →
      Partition ctx r (p :: ps) tokens
  | present (p : Parameter) (ps : List Parameter) (span rest : List String) (v : Value) :
      span ≠ [] → r.entries.lookup p.name = some v → Decodes ctx p span rest v →
      Partition ctx r ps rest → Partition ctx r (p :: ps) (span ++ rest)

/-- A number argument is a non-empty run of ASCII digits whose value fits in 63 bits. -/
theorem readDigit_eq_some_iff (t : String) (n : Int64) :
    readDigit t = some n ↔
      t.toList ≠ [] ∧ t.toList.all isAsciiDigit ∧ digitsValue t.toList ≤ 2 ^ 63 - 1 ∧
        n = Int64.ofNat (digitsValue t.toList) := by
  unfold readDigit readDigitsI64 readDigits
  by_cases digits : !t.toList.isEmpty && t.toList.all isAsciiDigit
  · have split : t.toList ≠ [] ∧ t.toList.all isAsciiDigit = true := by
      simpa [Bool.and_eq_true, List.isEmpty_iff] using digits
    simp only [digits, if_true, Nat.pow_eq]
    by_cases small : digitsValue t.toList < 2 ^ 63
    · simp only [small, if_true, Option.some.injEq, split, ne_eq, not_false_eq_true, true_and]
      constructor
      · intro same
        exact ⟨by omega, same.symm⟩
      · intro ⟨_, same⟩
        exact same.symm
    · simp only [small, if_false, reduceCtorEq, false_iff]
      intro ⟨_, _, bounded, _⟩
      omega
  · have split : ¬(t.toList ≠ [] ∧ t.toList.all isAsciiDigit = true) := by
      simpa [Bool.and_eq_true, List.isEmpty_iff] using digits
    simp only [digits, Bool.false_eq_true, if_false, reduceCtorEq, false_iff]
    intro ⟨nonempty, all, _⟩
    exact split ⟨nonempty, all⟩

/-- An item is read from a word exactly as `Item` says. -/
theorem takeItem_eq_some_iff (k : Kind) (t : String) (v : Value) :
    takeItem ctx k t = some v ↔ Item ctx k t v := by
  constructor
  · intro read
    cases k <;> simp only [takeItem, takeOne, Option.map_map] at read
    case channel | emote | role | user | voice | category =>
      obtain ⟨e, resolved, rfl⟩ := Option.map_eq_some_iff.mp read
      exact Item.entity _ t e rfl resolved
    case command =>
      obtain ⟨pair, found, rfl⟩ := Option.map_eq_some_iff.mp read
      obtain ⟨registry, known, found⟩ := Option.bind_eq_some_iff.mp found
      obtain ⟨c, named, built⟩ := Option.bind_eq_some_iff.mp found
      have same : pair = (.command c, 1) := (Option.some.inj built).symm
      subst same
      exact Item.command t registry c known named
    case digit =>
      obtain ⟨n, parsed, rfl⟩ := Option.map_eq_some_iff.mp read
      obtain ⟨nonempty, all, bounded, rfl⟩ := (readDigit_eq_some_iff t n).mp parsed
      exact Item.digit t nonempty all bounded
    case duration =>
      obtain ⟨s, parsed, rfl⟩ := Option.map_eq_some_iff.mp read
      exact Item.duration t s parsed
    case word =>
      cases read
      exact Item.word t
    all_goals cases read
  · intro item
    cases item with
    | word => rfl
    | digit _ nonempty all bounded =>
      have parsed := (readDigit_eq_some_iff t _).mpr ⟨nonempty, all, bounded, rfl⟩
      simp [takeItem, takeOne, parsed]
    | duration _ s parsed => simp [takeItem, parsed]
    | command _ registry c known named => simp [takeItem, takeOne, known, named]
    | entity k _ e entity resolved =>
      cases k <;> simp_all [Kind.isEntity, takeItem, takeOne]

/-- Kinds other than duration read their one word as an item. -/
theorem takeOne_cons_of_ne_duration {k : Kind} (other : k ≠ .duration) (t : String)
    (rest : List String) :
    takeOne ctx k (t :: rest) = (takeItem ctx k t).map fun v => (v, 1) := by
  cases k
  case duration => exact absurd rfl other
  case command =>
    simp only [takeOne, takeItem, Option.map_map]
    cases ctx.commands with
    | none => rfl
    | some registry =>
      cases named : registry.get? (lower t) <;> simp [named]
  all_goals simp [takeOne, takeItem, Option.map_map, Function.comp_def]

/-- A list reads items from the front while each word reads as one: its items are those
of its first words, and the next word, if any, reads as no item. -/
theorem takeItems_spec (k : Kind) (tokens : List String) :
    (takeItems ctx k tokens).length ≤ tokens.length ∧
      List.Forall₂ (Item ctx k) (tokens.take (takeItems ctx k tokens).length)
        (takeItems ctx k tokens) ∧
      ∀ u ∈ (tokens.drop (takeItems ctx k tokens).length).head?, ∀ v, ¬Item ctx k u v := by
  induction tokens with
  | nil => simp [takeItems]
  | cons t rest ih =>
    cases read : takeItem ctx k t with
    | none =>
      have stopped : ∀ v, ¬Item ctx k t v := by
        intro v item
        rw [← takeItem_eq_some_iff, read] at item
        cases item
      simpa [takeItems, read] using stopped
    | some v =>
      obtain ⟨bounded, items, stops⟩ := ih
      have item : Item ctx k t v := (takeItem_eq_some_iff k t v).mp read
      simp only [takeItems, read, List.length_cons, List.take_succ_cons, List.drop_succ_cons]
      exact ⟨Nat.succ_le_succ bounded, List.Forall₂.cons item items, stops⟩

/-- At each word the duration fold either stops or takes the word: it takes it exactly
when the word has a unit, denotes some seconds, and keeps the total below 2^64. -/
theorem foldStops_or_fits (total : UInt64) (t : String) (rest : List String) :
    FoldStops total.toNat (t :: rest) ∨
      ∃ s, Duration.hasUnit t = true ∧ Duration.parseToken t = some s ∧
        total.toNat + s.toNat < 2 ^ 64 := by
  by_cases unit : Duration.hasUnit t = true
  · cases parsed : Duration.parseToken t with
    | none =>
      left
      intro u first _ s again
      simp only [List.head?_cons, Option.mem_def, Option.some.injEq] at first
      subst first
      rw [parsed] at again
      cases again
    | some s =>
      by_cases fits : total.toNat + s.toNat < 2 ^ 64
      · exact Or.inr ⟨s, unit, rfl, fits⟩
      · left
        intro u first _ s' again
        simp only [List.head?_cons, Option.mem_def, Option.some.injEq] at first
        subst first
        rw [parsed, Option.some.injEq] at again
        subst again
        omega
  · left
    intro u first hasUnit
    simp only [List.head?_cons, Option.mem_def, Option.some.injEq] at first
    subst first
    exact absurd hasUnit unit

/-- The fold takes a word that fits. -/
theorem absorbDurations_cons_of_fits {total s : UInt64} {used : Nat} {t : String}
    (rest : List String) (unit : Duration.hasUnit t = true)
    (parsed : Duration.parseToken t = some s) (fits : total.toNat + s.toNat < 2 ^ 64) :
    absorbDurations total used (t :: rest) = absorbDurations (total + s) (used + 1) rest := by
  simp only [absorbDurations, unit, Bool.not_true, Bool.false_eq_true, if_false, parsed]
  exact if_pos fits

/-- The fold stops at a word it cannot take, keeping its total and count. -/
theorem absorbDurations_cons_of_stops {total : UInt64} {used : Nat} {t : String}
    (rest : List String) (stops : FoldStops total.toNat (t :: rest)) :
    absorbDurations total used (t :: rest) = (total, used) := by
  by_cases unit : Duration.hasUnit t = true
  · cases parsed : Duration.parseToken t with
    | none => simp [absorbDurations, unit, parsed]
    | some s =>
      have overflows : ¬total.toNat + s.toNat < 2 ^ 64 := Nat.not_lt.mpr (stops t rfl unit s parsed)
      simp only [absorbDurations, unit, Bool.not_true, Bool.false_eq_true, if_false, parsed]
      exact if_neg overflows
  · have noUnit : Duration.hasUnit t = false := by simpa using unit
    simp [absorbDurations, noUnit]

/-- The duration fold adds the following words with units while each denotes some
seconds and the total stays below 2^64: the words it used are a prefix of `tokens`, each
with a unit, the new total is the exact sum, and it stops before the next word. -/
theorem absorbDurations_spec (total : UInt64) (used : Nat) (tokens : List String) :
    ∃ seconds : List UInt64,
      (absorbDurations total used tokens).2 = used + seconds.length ∧
      (absorbDurations total used tokens).1.toNat =
        total.toNat + (seconds.map UInt64.toNat).sum ∧
      seconds.length ≤ tokens.length ∧
      (∀ u ∈ tokens.take seconds.length, Duration.hasUnit u = true) ∧
      List.Forall₂ (fun u s => Duration.parseToken u = some s)
        (tokens.take seconds.length) seconds ∧
      FoldStops (absorbDurations total used tokens).1.toNat (tokens.drop seconds.length) := by
  induction tokens generalizing total used with
  | nil => exact ⟨[], by simp [absorbDurations, FoldStops]⟩
  | cons t rest ih =>
    rcases foldStops_or_fits total t rest with stops | ⟨s, unit, parsed, fits⟩
    · rw [absorbDurations_cons_of_stops rest stops]
      exact ⟨[], by simpa using stops⟩
    · rw [absorbDurations_cons_of_fits rest unit parsed fits]
      obtain ⟨seconds, counted, summed, bounded, units, values, stops⟩ := ih (total + s) (used + 1)
      have added : (total + s).toNat = total.toNat + s.toNat := by
        rw [UInt64.toNat_add, Nat.mod_eq_of_lt fits]
      refine ⟨s :: seconds, ?_, ?_, ?_, ?_, ?_, ?_⟩
      · rw [counted, List.length_cons]
        omega
      · rw [summed, added, List.map_cons, List.sum_cons]
        omega
      · simpa using bounded
      · intro u mem
        simp only [List.length_cons, List.take_succ_cons, List.mem_cons] at mem
        rcases mem with rfl | later
        · exact unit
        · exact units u later
      · have step : List.Forall₂ (fun u s => Duration.parseToken u = some s)
            (t :: rest.take seconds.length) (s :: seconds) := List.Forall₂.cons parsed values
        simpa using step
      · simpa using stops

/-- A single-valued parameter takes one word, or a duration and the durations that follow
it while the sum fits. -/
theorem takeOne_decodes {p : Parameter} {tokens : List String} {v : Value} {n : Nat}
    (single : p.repeated = false) (read : takeOne ctx p.kind tokens = some (v, n)) :
    0 < n ∧ n ≤ tokens.length ∧ Decodes ctx p (tokens.take n) (tokens.drop n) v := by
  obtain ⟨t, rest, rfl⟩ : ∃ t rest, tokens = t :: rest := by
    cases tokens with
    | nil => simp [takeOne] at read
    | cons t rest => exact ⟨t, rest, rfl⟩
  by_cases duration : p.kind = .duration
  · rw [duration] at read
    simp only [takeOne] at read
    obtain ⟨first, parsed, folded⟩ := Option.map_eq_some_iff.mp read
    obtain ⟨seconds, counted, summed, bounded, units, values, stops⟩ :=
      absorbDurations_spec first 1 rest
    simp only [Prod.mk.injEq] at folded
    obtain ⟨rfl, rfl⟩ := folded
    rw [counted]
    refine ⟨by omega, by simpa [Nat.add_comm] using bounded, ?_⟩
    rw [Nat.add_comm, List.take_succ_cons, List.drop_succ_cons]
    exact Decodes.duration t _ _ first _ seconds duration single parsed units values summed stops
  · rw [takeOne_cons_of_ne_duration duration] at read
    obtain ⟨w, found, same⟩ := Option.map_eq_some_iff.mp read
    simp only [Prod.mk.injEq] at same
    obtain ⟨rfl, rfl⟩ := same
    have item := (takeItem_eq_some_iff p.kind t w).mp found
    exact ⟨Nat.one_pos, by simp, by simpa using Decodes.single t rest w duration single item⟩

/-- A parameter that reads takes a non-empty prefix of the words, which it decodes to the
value it read. -/
theorem take_decodes {p : Parameter} {tokens : List String} {v : Value} {n : Nat}
    (read : take ctx p tokens = some (v, n)) :
    0 < n ∧ n ≤ tokens.length ∧ Decodes ctx p (tokens.take n) (tokens.drop n) v := by
  unfold take at read
  by_cases text : p.kind = .text
  · simp only [text, if_true] at read
    by_cases empty : tokens.isEmpty
    · simp [empty] at read
    · simp only [empty, Bool.false_eq_true, if_false, Option.some.injEq, Prod.mk.injEq] at read
      obtain ⟨rfl, rfl⟩ := read
      have nonempty : tokens ≠ [] := by simpa [List.isEmpty_iff] using empty
      refine ⟨List.length_pos_iff.mpr nonempty, Nat.le_refl _, ?_⟩
      simpa using Decodes.text tokens text nonempty
  · simp only [text, if_false] at read
    by_cases repeated : p.repeated = true
    · simp only [repeated, if_true] at read
      obtain ⟨bounded, items, stops⟩ := @takeItems_spec ctx p.kind tokens
      cases found : takeItems ctx p.kind tokens with
      | nil => simp [found] at read
      | cons first more =>
        simp only [found, Option.some.injEq, Prod.mk.injEq] at read
        obtain ⟨rfl, rfl⟩ := read
        rw [found] at bounded items stops
        have positive : 0 < (first :: more).length := Nat.succ_pos _
        refine ⟨positive, bounded, Decodes.list _ _ _ text repeated ?_ items stops⟩
        intro empty
        have := congrArg List.length empty
        simp only [List.length_take, List.length_nil] at this
        omega
    · have single : p.repeated = false := by simpa using repeated
      simp only [repeated, Bool.false_eq_true, if_false] at read
      exact takeOne_decodes single read

/-- When a result stores, under each traced parameter's name, exactly what the trace
says it read, the trace's spans partition the words: one span per parameter the walk
reaches, each starting where the previous one ended. -/
theorem partition_of_trace {r : Bindings} (start : Nat) (ps : List Parameter)
    (tokens : List String)
    (stored : ∀ t ∈ trace ctx start ps tokens, r.entries.lookup t.param.name = t.value) :
    Partition ctx r (throughText ps) tokens := by
  induction ps generalizing start tokens with
  | nil => exact Partition.nil tokens
  | cons p ps ih =>
    cases read : take ctx p tokens with
    | none =>
      have here : r.entries.lookup p.name = none :=
        stored ⟨p, start, 0, none⟩ (by simp [trace, read])
      by_cases text : p.kind = .text
      · simpa [throughText, text] using Partition.absent p [] tokens here (Partition.nil tokens)
      · have rest : Partition ctx r (throughText ps) tokens :=
          ih start tokens (fun t traced => stored t (by simp [trace, read, text, traced]))
        simpa [throughText, text] using Partition.absent p _ tokens here rest
    | some taken =>
      obtain ⟨v, n⟩ := taken
      obtain ⟨positive, bounded, decodes⟩ := take_decodes read
      have here : r.entries.lookup p.name = some v :=
        stored ⟨p, start, n, some v⟩ (by simp [trace, read])
      have nonempty : tokens.take n ≠ [] := by
        intro empty
        have := congrArg List.length empty
        simp only [List.length_take, List.length_nil] at this
        omega
      rw [← List.take_append_drop n tokens]
      by_cases text : p.kind = .text
      · simpa [throughText, text] using
          Partition.present p [] _ _ v nonempty here decodes (Partition.nil _)
      · have rest : Partition ctx r (throughText ps) (tokens.drop n) :=
          ih (start + n) (tokens.drop n)
            (fun t traced => stored t (by simp [trace, read, text, traced]))
        simpa [throughText, text] using Partition.present p _ _ _ v nonempty here decodes rest

end Reading

namespace Signature

open Reading

/-- Positional reading is a left-to-right partition of the words left by the flag pass.
For every signature built from parameters, every text, resolver and registry, a
successful reading splits those words into consecutive spans, one for each positional
parameter up to and including the first text one, in order: an absent parameter takes
an empty span, a present one a non-empty span that decodes exactly to the value stored
under its name. No word is lost, skipped or read twice; words after the last span are
left unread. -/
theorem read_partitions_positional_words (ps : List Parameter) (ctx : Context)
    (input : String) (r : Bindings) (read : (ofParameters ps).read ctx input = .ok r) :
    Partition ctx r (throughText (ofParameters ps).positional)
      ((ofParameters ps).positionalWords input) := by
  apply partition_of_trace 0
  intro t traced
  exact read_lookup_traced (ofParameters_names_nodup ps) read traced

/-- A list of numbers takes the words while they read, and text takes the rest. -/
theorem digits_then_text_partition :
    let g := compile "<ids:digit...> [rest:text]"
    let r : Bindings := ⟨[("ids", .list [.digit 1, .digit 2, .digit 3]), ("rest", .text "four 5")]⟩
    g.read {} "1 2 3 four 5" = .ok r ∧
      Partition {} r (throughText g.positional) (g.positionalWords "1 2 3 four 5") := by
  intro g r
  have read : g.read {} "1 2 3 four 5" = .ok r := by rfl
  exact ⟨read, read_partitions_positional_words _ {} _ r read⟩

end Signature

end ChatBot
