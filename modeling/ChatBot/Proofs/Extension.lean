import ChatBot.Proofs.Partition

/-!
# Appending text never breaks a reading

The positional parameters read greedily and never backtrack. Appending words after a text
therefore changes a parameter's reading only if that parameter reached the last word:
text, a list or a duration fold may then take more words, while every parameter that
stopped earlier reads what it read before. Every parameter the walk reaches after the
last word had nothing left to read, so it was optional, and stays harmless whatever it
reads from the appended words.

The comparison is made between the traces of the two walks (`Extends`): entry by entry
the same parameters, the same entries as long as they end before the last word of the
shorter text, and a parameter that read keeps reading.
-/

namespace ChatBot

open Text

namespace Text

/-- A blank between two texts separates their words. -/
theorem wordsFrom_append_blank (word : List Char) (a b : List Char) {c : Char}
    (blank : isBlank c = true) :
    wordsFrom word (a ++ c :: b) = wordsFrom word a ++ wordsFrom [] b := by
  induction a generalizing word with
  | nil =>
    cases word with
    | nil => simp [wordsFrom, blank]
    | cons x xs => simp [wordsFrom, blank]
  | cons x rest ih =>
    by_cases split : isBlank x = true
    · cases word with
      | nil => simp [wordsFrom, split, ih]
      | cons y ys => simp [wordsFrom, split, ih]
    · simp [wordsFrom, split, ih]

/-- The words of two texts joined by a space are the words of the first, then those of
the second. -/
theorem words_append_space (s t : String) : words (s ++ " " ++ t) = words s ++ words t := by
  have spelled : (s ++ " " ++ t).toList = s.toList ++ ' ' :: t.toList := by simp
  have space : isBlank ' ' = true := by decide
  simp only [words, wordsOf, spelled, wordsFrom_append_blank [] _ _ space, List.map_append]

end Text

namespace Reading

variable {ctx : Context}

/-- A list reading more words reads the same items unless it used every word before. -/
theorem takeItems_append (k : Kind) (tokens extra : List String) :
    takeItems ctx k (tokens ++ extra) =
      if (takeItems ctx k tokens).length < tokens.length then takeItems ctx k tokens
      else takeItems ctx k tokens ++ takeItems ctx k extra := by
  induction tokens with
  | nil => simp [takeItems]
  | cons t rest ih =>
    cases read : takeItem ctx k t with
    | none => simp [takeItems, read]
    | some v =>
      simp only [List.cons_append, takeItems, read, List.length_cons, Nat.add_lt_add_iff_right, ih]
      split <;> rfl

/-- The duration fold gives the same result on more words unless it used every word
before; then it goes on from where it stopped. -/
theorem absorbDurations_append (total : UInt64) (used : Nat) (tokens extra : List String) :
    absorbDurations total used (tokens ++ extra) =
      if (absorbDurations total used tokens).2 < used + tokens.length then
        absorbDurations total used tokens
      else
        absorbDurations (absorbDurations total used tokens).1
          (absorbDurations total used tokens).2 extra := by
  induction tokens generalizing total used with
  | nil => simp [absorbDurations]
  | cons t rest ih =>
    rcases foldStops_or_fits total t rest with stops | ⟨s, unit, parsed, fits⟩
    · have first : FoldStops total.toNat (t :: (rest ++ extra)) := stops
      rw [List.cons_append, absorbDurations_cons_of_stops _ first,
        absorbDurations_cons_of_stops rest stops]
      simp
    · rw [List.cons_append, absorbDurations_cons_of_fits _ unit parsed fits,
        absorbDurations_cons_of_fits rest unit parsed fits, ih, List.length_cons]
      have shift : used + 1 + rest.length = used + (rest.length + 1) := by omega
      rw [shift]

/-- The duration fold never uses more words than it is given. -/
theorem absorbDurations_used_le (total : UInt64) (used : Nat) (tokens : List String) :
    (absorbDurations total used tokens).2 ≤ used + tokens.length := by
  obtain ⟨seconds, counted, -, bounded, -⟩ := absorbDurations_spec total used tokens
  omega

/-- A single value read from more words is the value read before, unless it used every
word; only a duration fold can, and it goes on into the new words. -/
theorem takeOne_append (k : Kind) {tokens : List String} (extra : List String)
    (nonempty : tokens ≠ []) :
    takeOne ctx k (tokens ++ extra) = takeOne ctx k tokens ∨
      ∃ v, takeOne ctx k tokens = some (v, tokens.length) ∧
        (takeOne ctx k (tokens ++ extra)).isSome := by
  obtain ⟨t, rest, rfl⟩ := List.exists_cons_of_ne_nil nonempty
  by_cases duration : k = .duration
  · subst duration
    cases parsed : Duration.parseToken t with
    | none => left; simp [takeOne, parsed]
    | some s =>
      simp only [List.cons_append, takeOne, parsed, Option.map_some, absorbDurations_append]
      by_cases short : (absorbDurations s 1 rest).2 < 1 + rest.length
      · left
        simp [short]
      · right
        have bounded := absorbDurations_used_le s 1 rest
        refine ⟨.duration (absorbDurations s 1 rest).1, ?_, by simp [short]⟩
        have all : (absorbDurations s 1 rest).2 = (t :: rest).length := by
          simp only [List.length_cons]
          omega
        rw [← all]
  · left
    rw [List.cons_append, takeOne_cons_of_ne_duration duration,
      takeOne_cons_of_ne_duration duration]

/-- A parameter reading more words reads as before, unless it read and used every word
it had; then it still reads. -/
theorem take_append {p : Parameter} {tokens : List String} (extra : List String)
    (nonempty : tokens ≠ []) :
    take ctx p (tokens ++ extra) = take ctx p tokens ∨
      ∃ v, take ctx p tokens = some (v, tokens.length) ∧
        (take ctx p (tokens ++ extra)).isSome := by
  unfold take
  by_cases text : p.kind = .text
  · have full : (tokens ++ extra).isEmpty = false := by simp [nonempty]
    have empty : tokens.isEmpty = false := by simpa using nonempty
    simp [text, full, empty]
  · simp only [text, if_false]
    by_cases repeated : p.repeated = true
    · simp only [repeated, if_true]
      rw [takeItems_append]
      by_cases short : (takeItems ctx p.kind tokens).length < tokens.length
      · left
        simp [short]
      · right
        have bounded := (@takeItems_spec ctx p.kind tokens).1
        have all : (takeItems ctx p.kind tokens).length = tokens.length := by omega
        cases found : takeItems ctx p.kind tokens with
        | nil =>
          rw [found] at all
          exact absurd (List.length_eq_zero_iff.mp all.symm) nonempty
        | cons first more =>
          rw [found] at all short
          have notShort : ¬more.length + 1 < tokens.length := by simpa using short
          refine ⟨.list (first :: more), by simp [all], ?_⟩
          simp [notShort]
    · simp only [repeated, Bool.false_eq_true, if_false]
      exact takeOne_append p.kind extra nonempty

/-- With no words left, a parameter reads nothing. -/
theorem take_nil (p : Parameter) : take ctx p [] = none := by
  unfold take
  by_cases text : p.kind = .text
  · simp [text]
  · by_cases repeated : p.repeated = true
    · simp [text, repeated, takeItems]
    · simp [text, repeated, takeOne]

/-- How an entry of a walk over more words relates to the entry of the walk over the
first words, these ending at `bound`: the same parameter, the same entry when it ended
before `bound`, and a parameter that read still reads. -/
def Extends (bound : Nat) (e e' : Taken) : Prop :=
  e'.param = e.param ∧ (e.start + e.used < bound → e' = e) ∧
    (e.value.isSome → e'.value.isSome)

/-- An entry extends itself. -/
theorem Extends.refl (bound : Nat) (e : Taken) : Extends bound e e :=
  ⟨rfl, fun _ => rfl, id⟩

/-- Past the last word every parameter reads nothing, so a walk there is extended by any
walk of the same parameters. -/
theorem trace_nil_extends (start start' : Nat) (ps : List Parameter) (extra : List String) :
    List.Forall₂ (Extends start) (trace ctx start ps []) (trace ctx start' ps extra) := by
  induction ps generalizing start' extra with
  | nil => exact List.Forall₂.nil
  | cons p ps ih =>
    have head : ∀ used value, Extends start ⟨p, start, 0, none⟩ ⟨p, start', used, value⟩ := by
      intro used value
      refine ⟨rfl, fun ended => ?_, fun read => ?_⟩
      · simp at ended
      · simp at read
    by_cases text : p.kind = .text
    · cases read : take ctx p extra with
      | none => simpa [trace, take_nil, read, text] using head 0 none
      | some taken => simpa [trace, take_nil, read, text] using head taken.2 (some taken.1)
    · cases read : take ctx p extra with
      | none =>
        simp only [trace, take_nil, read, text, if_false]
        exact List.Forall₂.cons (head 0 none) (ih start' extra)
      | some taken =>
        simp only [trace, take_nil, read, text, if_false]
        exact List.Forall₂.cons (head taken.2 (some taken.1)) (ih _ _)

/-- The walk over more words extends the walk over the first words, entry by entry. -/
theorem trace_append (start : Nat) (ps : List Parameter) (tokens extra : List String) :
    List.Forall₂ (Extends (start + tokens.length)) (trace ctx start ps tokens)
      (trace ctx start ps (tokens ++ extra)) := by
  induction ps generalizing start tokens with
  | nil => exact List.Forall₂.nil
  | cons p ps ih =>
    by_cases empty : tokens = []
    · subst empty
      simpa using trace_nil_extends start start (p :: ps) extra
    rcases take_append extra empty with same | ⟨v, full, reads⟩
    · -- The parameter reads as before, so the walks go on from the same place.
      cases read : take ctx p tokens with
      | none =>
        have read' : take ctx p (tokens ++ extra) = none := same.trans read
        by_cases text : p.kind = .text
        · simpa [trace, read, read', text] using Extends.refl (start + tokens.length) ⟨p, start, 0, none⟩
        · simp only [trace, read, read', text, if_false]
          exact List.Forall₂.cons (Extends.refl _ _) (ih start tokens)
      | some taken =>
        obtain ⟨v, n⟩ := taken
        have read' : take ctx p (tokens ++ extra) = some (v, n) := same.trans read
        obtain ⟨-, bounded, -⟩ := take_decodes read
        by_cases text : p.kind = .text
        · simpa [trace, read, read', text] using
            Extends.refl (start + tokens.length) ⟨p, start, n, some v⟩
        · simp only [trace, read, read', text, if_false]
          have rest := ih (start + n) (tokens.drop n)
          rw [List.drop_append_of_le_length bounded]
          have ends : start + n + (tokens.drop n).length = start + tokens.length := by
            simp only [List.length_drop]
            omega
          rw [ends] at rest
          exact List.Forall₂.cons (Extends.refl _ _) rest
    · -- The parameter used every word: after it, the shorter walk has nothing left.
      obtain ⟨⟨w, m⟩, read'⟩ := Option.isSome_iff_exists.mp reads
      have head : Extends (start + tokens.length) ⟨p, start, tokens.length, some v⟩
          ⟨p, start, m, some w⟩ := by
        refine ⟨rfl, fun ended => ?_, fun _ => rfl⟩
        simp at ended
      have rest := @trace_nil_extends ctx (start + tokens.length) (start + m) ps
        ((tokens ++ extra).drop m)
      by_cases text : p.kind = .text
      · simpa [trace, full, read', text] using head
      · simp only [trace, full, read', text, if_false, List.drop_length]
        exact List.Forall₂.cons head rest

/-- Every entry of the first walk has its extension in the second. -/
theorem Extends.exists_right {bound : Nat} {es es' : List Taken}
    (extended : List.Forall₂ (Extends bound) es es') {e : Taken} (mem : e ∈ es) :
    ∃ e' ∈ es', Extends bound e e' := by
  induction extended with
  | nil => simp at mem
  | cons step _ ih =>
    rcases List.mem_cons.mp mem with rfl | later
    · exact ⟨_, List.mem_cons_self, step⟩
    · obtain ⟨e', found, related⟩ := ih later
      exact ⟨e', List.mem_cons_of_mem _ found, related⟩

/-- Every entry of the second walk extends an entry of the first. -/
theorem Extends.exists_left {bound : Nat} {es es' : List Taken}
    (extended : List.Forall₂ (Extends bound) es es') {e' : Taken} (mem : e' ∈ es') :
    ∃ e ∈ es, Extends bound e e' := by
  induction extended with
  | nil => simp at mem
  | cons step _ ih =>
    rcases List.mem_cons.mp mem with rfl | later
    · exact ⟨_, List.mem_cons_self, step⟩
    · obtain ⟨e, found, related⟩ := ih later
      exact ⟨e, List.mem_cons_of_mem _ found, related⟩

end Reading

namespace Signature

open Reading

/-- The words a text, a space and another text leave for the positional parameters are
those the first text leaves, then those the second leaves. -/
theorem positionalWords_append_space (g : Signature) (s t : String) :
    g.positionalWords (s ++ " " ++ t) = g.positionalWords s ++ g.positionalWords t := by
  simp only [positionalWords, words_append_space, List.filter_append]

/-- The walk over the longer text extends the walk over the shorter one, up to the end
of the shorter text's positional words. -/
theorem trace_append_space (g : Signature) (ctx : Context) (s t : String) :
    List.Forall₂ (Extends (g.positionalWords s).length)
      (trace ctx 0 g.positional (g.positionalWords s))
      (trace ctx 0 g.positional (g.positionalWords (s ++ " " ++ t))) := by
  rw [positionalWords_append_space]
  simpa using @trace_append ctx 0 g.positional (g.positionalWords s) (g.positionalWords t)

/-- A reading that succeeds still succeeds with more text after it: a parameter that reads
nothing in the longer walk either read nothing before, so it is optional, or comes after
the end of the shorter text, where it had nothing to read, so again it is optional. -/
theorem read_append_ok {g : Signature} {ctx : Context} {s : String} {r : Bindings}
    (read : g.read ctx s = .ok r) (t : String) : ∃ r', g.read ctx (s ++ " " ++ t) = .ok r' := by
  have extended := trace_append_space g ctx s t
  rw [read_eq_replay] at read ⊢
  have optional := (replay_ok_iff _ _ _).mp ⟨r, read⟩
  rw [replay_ok_iff]
  intro e' traced' absent'
  obtain ⟨e, traced, same, -, reads⟩ := Extends.exists_left extended traced'
  have absent : e.value = none := by
    cases found : e.value with
    | none => rfl
    | some v =>
      have stillReads := reads (by simp [found])
      simp [absent'] at stillReads
  rw [same]
  exact optional e traced absent

section Distinct

variable {g : Signature} (distinct : (g.params.map Parameter.name).Nodup)
include distinct

/-- A flag set by a text stays set when more text follows. -/
theorem read_append_flag {ctx : Context} {s t : String} {r r' : Bindings}
    (read : g.read ctx s = .ok r) (read' : g.read ctx (s ++ " " ++ t) = .ok r')
    {f : Parameter} (declared : f ∈ g.flags) (stored : (r.entries.lookup f.name).isSome) :
    r'.entries.lookup f.name = r.entries.lookup f.name := by
  rw [read_lookup_flag distinct read declared] at stored ⊢
  rw [read_lookup_flag distinct read' declared, words_append_space, List.any_append]
  cases marked : (words s).any (isMarker f.name)
  · simp [marked] at stored
  · simp

/-- A parameter whose reading ended before the last positional word of the shorter text
stores the same value, or the same absence, after more text is appended. -/
theorem read_append_before_end {ctx : Context} {s t : String} {r r' : Bindings}
    (read : g.read ctx s = .ok r) (read' : g.read ctx (s ++ " " ++ t) = .ok r')
    {e : Taken} (traced : e ∈ trace ctx 0 g.positional (g.positionalWords s))
    (early : e.start + e.used < (g.positionalWords s).length) :
    r'.entries.lookup e.param.name = r.entries.lookup e.param.name := by
  obtain ⟨e', traced', -, unchanged, -⟩ := Extends.exists_right (trace_append_space g ctx s t) traced
  have same : e' = e := unchanged early
  subst same
  rw [read_lookup_traced distinct read traced, read_lookup_traced distinct read' traced']

/-- Every name stored by a reading is still stored after more text is appended. -/
theorem read_append_stored {ctx : Context} {s t : String} {r r' : Bindings}
    (read : g.read ctx s = .ok r) (read' : g.read ctx (s ++ " " ++ t) = .ok r')
    {name : String} (stored : (r.entries.lookup name).isSome) :
    (r'.entries.lookup name).isSome := by
  by_cases positional : name ∈ (trace ctx 0 g.positional (g.positionalWords s)).map (·.param.name)
  · -- A positional parameter that read keeps reading.
    obtain ⟨e, traced, rfl⟩ := List.mem_map.mp positional
    obtain ⟨e', traced', same, -, reads⟩ :=
      Extends.exists_right (trace_append_space g ctx s t) traced
    rw [read_lookup_traced distinct read traced] at stored
    rw [← same, read_lookup_traced distinct read' traced']
    exact reads stored
  · -- Otherwise only the flag pass can have stored the name.
    by_cases flag : ∃ f ∈ g.flags, f.name = name
    · obtain ⟨f, declared, rfl⟩ := flag
      rw [read_append_flag distinct read read' declared stored]
      exact stored
    · have other : name ∉ g.flags.map Parameter.name := by simpa using flag
      rw [read_lookup_untraced read positional, pullFlags_lookup_of_not_mem _ _ _ other] at stored
      simp [Bindings.empty] at stored

end Distinct

/-- Appending text never breaks a successful reading. For every signature built from
parameters, every context and texts `s` and `t`: if reading `s` succeeds with `r`, then
reading `s`, a space and `t` succeeds with some `r'` that stores every name `r` stores,
keeps every flag of `r`, and gives the same value, or the same absence, to every
positional parameter whose reading of `s` ended before the last positional word of `s`.
For a parameter that read, that is one whose words did not include the last one: only
text, a list or a duration fold that reached the end of `s` may read more. -/
theorem read_append_extends (ps : List Parameter) (ctx : Context) (s t : String) (r : Bindings)
    (read : (ofParameters ps).read ctx s = .ok r) :
    ∃ r', (ofParameters ps).read ctx (s ++ " " ++ t) = .ok r' ∧
      (∀ name, (r.entries.lookup name).isSome → (r'.entries.lookup name).isSome) ∧
      (∀ f ∈ (ofParameters ps).flags, (r.entries.lookup f.name).isSome →
        r'.entries.lookup f.name = r.entries.lookup f.name) ∧
      (∀ e ∈ trace ctx 0 (ofParameters ps).positional ((ofParameters ps).positionalWords s),
        e.start + e.used < ((ofParameters ps).positionalWords s).length →
          r'.entries.lookup e.param.name = r.entries.lookup e.param.name) := by
  have distinct := ofParameters_names_nodup ps
  obtain ⟨r', read'⟩ := read_append_ok read t
  exact ⟨r', read', fun _ stored => read_append_stored distinct read read' stored,
    fun _ declared stored => read_append_flag distinct read read' declared stored,
    fun _ traced early => read_append_before_end distinct read read' traced early⟩

/-- A list that reached the end of the text goes on reading the appended words. -/
theorem appended_words_extend_list :
    (compile "<ids:digit...> [w:word]").read {} "1 2" =
        .ok ⟨[("ids", .list [.digit 1, .digit 2])]⟩ ∧
      ∃ r', (compile "<ids:digit...> [w:word]").read {} ("1 2" ++ " " ++ "3 x") = .ok r' ∧
        (r'.entries.lookup "ids").isSome := by
  have read : (compile "<ids:digit...> [w:word]").read {} "1 2" =
      .ok ⟨[("ids", .list [.digit 1, .digit 2])]⟩ := by rfl
  obtain ⟨r', read', stored, -, -⟩ := read_append_extends _ {} "1 2" "3 x" _ read
  exact ⟨read, r', read', stored "ids" rfl⟩

end Signature

end ChatBot
