import ChatBot.Proofs.MentionForms
import ChatBot.Proofs.MissingArgument
import ChatBot.Proofs.NormalForm

/-!
# Reading arguments back by their kinds

A handler reads each argument with the accessor of its declared kind: `digit`, `duration`,
`text` for text and single words, `flag`, `command`, and `entityOf` with the entity's kind.
Reading a value as a type it does not have is a type fault. This module shows that a
handler that keeps to the declared kinds never meets one, as long as the resolver answers
with entities of the kind it was asked for:

* what a reading stores under a parameter's name suits that parameter (`Value.Suits`): one
  value of its kind when it is single, a non-empty list of values of its kind when it is
  repeated (`read_typed`);
* names are looked up after lowercasing, and every name of a signature is lowercase and
  distinct, so every capitalisation of a parameter's name finds its value and nothing else.

The main statement is `read_by_kind_never_mismatches`.
-/

namespace ChatBot

open Text

namespace Value

/-- `v.OfKind k`: `v` is a value that a parameter of kind `k` reads from one word. -/
inductive OfKind : Kind → Value → Prop
  | digit (n : Int64) : OfKind .digit (.digit n)
  | duration (s : UInt64) : OfKind .duration (.duration s)
  | text (s : String) : OfKind .text (.text s)
  | word (s : String) : OfKind .word (.word s)
  | flag (b : Bool) : OfKind .flag (.flag b)
  | command (c : Command Unit) : OfKind .command (.command c)
  | entity (e : Entity) : e.kind.isEntity = true → OfKind e.kind (.entity e)

/-- `v.Suits p`: `v` is what the parameter `p` stores, one value of its kind when `p` is
single, a non-empty list of such values when `p` is repeated. -/
inductive Suits (p : Parameter) : Value → Prop
  | single {v : Value} : p.repeated = false → v.OfKind p.kind → Suits p v
  | list {items : List Value} : p.repeated = true → items ≠ [] →
      (∀ x ∈ items, x.OfKind p.kind) → Suits p (.list items)

/-- A value of a kind converts to the type of that kind's accessor. -/
theorem OfKind.converts {k : Kind} {x : Value} (kinded : x.OfKind k) :
    (k = .digit → x.asDigit?.isSome) ∧ (k = .duration → x.asDuration?.isSome) ∧
    (k = .text ∨ k = .word → x.asString?.isSome) ∧ (k = .command → x.asCommand?.isSome) ∧
    (k.isEntity = true → x.asEntity?.isSome) := by
  cases kinded with
  | entity e isEntity => cases kind : e.kind <;> simp_all [Kind.isEntity, asEntity?]
  | _ => simp [Kind.isEntity, asDigit?, asDuration?, asString?, asCommand?]

end Value

namespace Bindings

/-- Every value stored under a name is stored for a parameter of `g` of that name, and
suits that parameter. -/
def Typed (g : Signature) (b : Bindings) : Prop :=
  ∀ name v, b.entries.lookup name = some v → ∃ p ∈ g.params, p.name = name ∧ v.Suits p

variable {g : Signature} {b : Bindings}

/-- The empty bindings suit every signature. -/
theorem typed_empty : empty.Typed g := by
  intro name v stored
  simp [empty] at stored

/-- Storing, under a parameter's name, a value that suits it keeps the bindings typed. -/
theorem Typed.insert (typed : b.Typed g) {p : Parameter} (declared : p ∈ g.params) {v : Value}
    (suits : v.Suits p) : (b.insert p.name v).Typed g := by
  intro name w stored
  rw [lookup_insert] at stored
  split at stored
  · rename_i same
    cases stored
    exact ⟨p, declared, same.symm, suits⟩
  · exact typed name w stored

/-- In typed bindings of a signature with distinct names, the value under a parameter's
name suits that parameter. -/
theorem Typed.suits (typed : b.Typed g) (distinct : (g.params.map Parameter.name).Nodup)
    {p : Parameter} (declared : p ∈ g.params) {v : Value}
    (stored : b.entries.lookup p.name = some v) : v.Suits p := by
  obtain ⟨q, member, same, suits⟩ := typed p.name v stored
  have equal : q = p := List.inj_on_of_nodup_map distinct member declared same
  exact equal ▸ suits

/-- A name asked for in any capitalisation is looked up as its lowercase form. -/
theorem value?_of_lower {name key : String} (lowered : lower name = key) :
    b.value? name = b.entries.lookup key := by
  rw [value?, lowered]

/-- Reading a name that holds nothing gives nothing, whatever it is read as. -/
theorem read_of_value?_none {β : Type} {name expected : String} {convert : Value → Option β}
    (absent : b.value? name = none) : b.read name expected convert = .ok none := by
  simp [read, absent]

/-- A name with no value reads as no list. -/
theorem readAll_of_value?_none {β : Type} {name : String} {convert : Value → Option β}
    (absent : b.value? name = none) : b.readAll name convert = none := by
  simp [readAll, absent]

/-- Reading a value gives it converted, when it converts. -/
theorem read_of_convert {β : Type} {name expected : String} {convert : Value → Option β}
    {v : Value} {x : β} (stored : b.value? name = some v) (converted : convert v = some x) :
    b.read name expected convert = .ok (some x) := by
  simp [read, stored, converted]

/-- Reading fails exactly when a value is stored that does not convert, and the fault names
the name as asked, the type expected and the stored value's own type. -/
theorem read_eq_error_iff {β : Type} (name expected : String) (convert : Value → Option β)
    (f : Fault) :
    b.read name expected convert = .error f ↔
      ∃ v, b.value? name = some v ∧ convert v = none ∧
        f = .typeMismatch name expected v.typeName := by
  unfold read
  cases stored : b.value? name with
  | none => simp
  | some v =>
    cases converted : convert v with
    | none => simp [converted, eq_comm]
    | some x => simp [converted]

/-- The accessor of a kind finds a value of that kind. -/
theorem read_of_ofKind {name : String} {v : Value} {k : Kind} (stored : b.value? name = some v)
    (kinded : v.OfKind k) :
    (k = .digit → ∃ x, b.digit name = .ok (some x)) ∧
    (k = .duration → ∃ x, b.duration name = .ok (some x)) ∧
    (k = .text ∨ k = .word → ∃ x, b.text name = .ok (some x)) ∧
    (k = .flag → ∃ x, b.flag name = .ok (some x)) ∧
    (k = .command → ∃ c, b.command name = .ok (some c)) ∧
    (k.isEntity = true → ∃ e, b.entityOf name k = .ok (some e)) := by
  cases kinded with
  | digit n => simp [digit, Kind.isEntity, read_of_convert stored (rfl : Value.asDigit? (.digit n) = some n)]
  | duration s =>
    simp [duration, Kind.isEntity, read_of_convert stored (rfl : Value.asDuration? (.duration s) = some s)]
  | text s => simp [text, Kind.isEntity, read_of_convert stored (rfl : Value.asString? (.text s) = some s)]
  | word s => simp [text, Kind.isEntity, read_of_convert stored (rfl : Value.asString? (.word s) = some s)]
  | flag x => simp [flag, Kind.isEntity, read_of_convert stored (rfl : Value.asFlag? (.flag x) = some x)]
  | command c =>
    simp [command, Kind.isEntity, read_of_convert stored (rfl : Value.asCommand? (.command c) = some c)]
  | entity e isEntity =>
    have converted : Value.asEntityOf? e.kind (.entity e) = some e := by simp [Value.asEntityOf?]
    have notOther : e.kind ≠ .digit ∧ e.kind ≠ .duration ∧ e.kind ≠ .text ∧ e.kind ≠ .word ∧
        e.kind ≠ .flag ∧ e.kind ≠ .command := by
      cases kind : e.kind <;> simp_all [Kind.isEntity]
    simp [notOther, entityOf, read_of_convert stored converted]

/-- Reading all items of a list keeps every item that converts: when all do, none is
dropped. -/
theorem readAll_of_all {β : Type} {name : String} {convert : Value → Option β}
    {items : List Value} (stored : b.value? name = some (.list items))
    (converts : ∀ x ∈ items, (convert x).isSome) :
    ∃ xs, b.readAll name convert = some xs ∧ xs.length = items.length :=
  ⟨items.filterMap convert, by simp [readAll, stored, Value.items],
    List.filterMap_length_eq_length.mpr converts⟩

/-- The list accessor of a kind keeps every item of that kind. -/
theorem readAll_of_ofKind {name : String} {items : List Value} {k : Kind}
    (stored : b.value? name = some (.list items)) (kinded : ∀ x ∈ items, x.OfKind k) :
    (k = .digit → ∃ xs, b.readAll name Value.asDigit? = some xs ∧ xs.length = items.length) ∧
    (k = .duration →
      ∃ xs, b.readAll name Value.asDuration? = some xs ∧ xs.length = items.length) ∧
    (k = .text ∨ k = .word →
      ∃ xs, b.readAll name Value.asString? = some xs ∧ xs.length = items.length) ∧
    (k = .command →
      ∃ xs, b.readAll name Value.asCommand? = some xs ∧ xs.length = items.length) ∧
    (k.isEntity = true →
      ∃ xs, b.readAll name Value.asEntity? = some xs ∧ xs.length = items.length) := by
  have converts := fun x mem => (kinded x mem).converts
  exact ⟨fun kind => readAll_of_all stored fun x mem => (converts x mem).1 kind,
    fun kind => readAll_of_all stored fun x mem => (converts x mem).2.1 kind,
    fun kind => readAll_of_all stored fun x mem => (converts x mem).2.2.1 kind,
    fun kind => readAll_of_all stored fun x mem => (converts x mem).2.2.2.1 kind,
    fun kind => readAll_of_all stored fun x mem => (converts x mem).2.2.2.2 kind⟩

end Bindings

namespace Reading

open Value

variable {ctx : Context}

/-- A word read as an item of kind `k` is a value of kind `k`, when the resolver answers
with entities of the kind asked for. -/
theorem Item.ofKind (kinded : ∀ k t e, ctx.resolver.resolve k t = some e → e.kind = k)
    {k : Kind} {t : String} {v : Value} (item : Item ctx k t v) : v.OfKind k := by
  cases item with
  | word => exact .word t
  | digit => exact .digit _
  | duration _ s => exact .duration s
  | command _ _ c => exact .command c
  | entity k _ e isEntity resolved =>
    have same : e.kind = k := kinded k t e resolved
    subst same
    exact .entity e isEntity

/-- Every item read from a run of words is a value of the kind read. -/
theorem forall_ofKind (kinded : ∀ k t e, ctx.resolver.resolve k t = some e → e.kind = k)
    {k : Kind} {span : List String} {items : List Value}
    (itemized : List.Forall₂ (Item ctx k) span items) : ∀ x ∈ items, x.OfKind k := by
  induction itemized with
  | nil => simp
  | cons item _ ih =>
    intro x mem
    rcases List.mem_cons.mp mem with rfl | later
    · exact item.ofKind kinded
    · exact ih x later

/-- What a parameter decodes from its span suits it, unless it is a repeated text
parameter, which reads its words as one text. -/
theorem Decodes.suits (kinded : ∀ k t e, ctx.resolver.resolve k t = some e → e.kind = k)
    {p : Parameter} (textSingle : p.kind = .text → p.repeated = false)
    {span rest : List String} {v : Value} (decodes : Decodes ctx p span rest v) : v.Suits p := by
  cases decodes with
  | text span text _ =>
    exact .single (textSingle text) (text ▸ OfKind.text _)
  | list span rest items _ repeated nonempty itemized _ =>
    refine .list repeated (fun empty => nonempty ?_) (forall_ofKind kinded itemized)
    subst empty
    exact List.forall₂_nil_right_iff.mp itemized
  | single t rest v _ single item => exact .single single (item.ofKind kinded)
  | duration t more rest first total seconds duration single =>
    exact .single single (duration ▸ OfKind.duration total)

/-- Replaying entries whose values suit their parameters, all of the signature, keeps
bindings typed. -/
theorem replay_typed {g : Signature} {input : String} {acc r : Bindings} {ts : List Taken}
    (suited : ∀ t ∈ ts, ∀ v, t.value = some v → t.param ∈ g.params ∧ v.Suits t.param)
    (typed : acc.Typed g) (replayed : replay input acc ts = .ok r) : r.Typed g := by
  induction ts generalizing acc with
  | nil =>
    simp only [replay, Except.ok.injEq] at replayed
    exact replayed ▸ typed
  | cons t ts ih =>
    have later : ∀ e ∈ ts, ∀ v, e.value = some v → e.param ∈ g.params ∧ v.Suits e.param :=
      fun e mem => suited e (List.mem_cons_of_mem t mem)
    cases read : t.value with
    | some v =>
      simp only [replay, read] at replayed
      obtain ⟨declared, suits⟩ := suited t List.mem_cons_self v read
      exact ih later (typed.insert declared suits) replayed
    | none =>
      cases needed : t.param.required
      · simp only [replay, read, needed, Bool.false_eq_true, if_false] at replayed
        exact ih later typed replayed
      · simp [replay, read, needed] at replayed

/-- Setting flags of the signature, each as true, keeps bindings typed. -/
theorem pullFlags_typed {g : Signature} (flags : List Parameter) (tokens : List String)
    {b : Bindings} (declared : ∀ f ∈ flags, f ∈ g.params ∧ (Value.flag true).Suits f)
    (typed : b.Typed g) : (pullFlags flags tokens b).2.Typed g := by
  induction flags generalizing tokens b with
  | nil => exact typed
  | cons f fs ih =>
    rw [pullFlags_cons]
    have rest := fun f' mem => declared f' (List.mem_cons_of_mem f mem)
    obtain ⟨member, suits⟩ := declared f List.mem_cons_self
    split
    · exact ih _ rest (typed.insert member suits)
    · exact ih _ rest typed

end Reading

namespace Signature

open Reading Value

/-- Every reading of a normal signature stores, under each name, a value that suits the
parameter of that name, when the resolver answers with entities of the kind asked for:
flags are set to true, and each positional parameter stores what it decodes. -/
theorem read_typed {g : Signature} (normal : g.Normal) {ctx : Context}
    (kinded : ∀ k t e, ctx.resolver.resolve k t = some e → e.kind = k) {input : String}
    {r : Bindings} (read : g.read ctx input = .ok r) : r.Typed g := by
  rw [read_eq_replay] at read
  refine replay_typed (fun e traced v value => ?_) (pullFlags_typed _ _ (fun f flag => ?_)
    Bindings.typed_empty) read
  · have positional := (throughText_sublist _).subset (param_mem_throughText traced)
    have declared := (List.mem_filter.mp positional).1
    have read := trace_value (g.positionalWords input) 0 g.positional traced
    rw [value, eq_comm, Option.map_eq_some_iff] at read
    obtain ⟨⟨w, n⟩, taken, rfl⟩ := read
    exact ⟨declared, (take_decodes taken).2.2.suits kinded (normal.textSingle _ declared)⟩
  · obtain ⟨member, isFlag⟩ := List.mem_filter.mp flag
    have kind : f.kind = .flag := by simpa [Parameter.isFlag] using isFlag
    exact ⟨member, .single (normal.flagOptional f member kind).2 (kind ▸ OfKind.flag true)⟩

/-- A handler that reads each argument with the accessor of its declared kind never meets a
type fault. Take any signature built from parameters, any registry and any resolver that
answers with entities of the kind asked for, and a successful reading `r`. For every
parameter `d` and every capitalisation `n` of its name: when `d` stored a single value, the
accessor of `d`'s kind finds it; when `d` stored a list, the list accessor of its kind
returns every item, none dropped; when nothing is stored under `n`, every accessor finds
nothing; and nothing is stored under a name that no parameter has. In general an accessor
fails exactly when a value is stored that it cannot convert, with a type fault naming the
name as asked, the type expected and the stored value's own type. -/
theorem read_by_kind_never_mismatches (ps : List Parameter) {ctx : Context}
    (kinded : ∀ k t e, ctx.resolver.resolve k t = some e → e.kind = k) {input : String}
    {r : Bindings} (read : (ofParameters ps).read ctx input = .ok r) :
    (∀ d ∈ (ofParameters ps).params, ∀ n, lower n = d.name → r.contains n = true →
      d.repeated = false →
      (d.kind = .digit → ∃ x, r.digit n = .ok (some x)) ∧
      (d.kind = .duration → ∃ x, r.duration n = .ok (some x)) ∧
      (d.kind = .text ∨ d.kind = .word → ∃ x, r.text n = .ok (some x)) ∧
      (d.kind = .flag → ∃ x, r.flag n = .ok (some x)) ∧
      (d.kind = .command → ∃ c, r.command n = .ok (some c)) ∧
      (d.kind.isEntity = true → ∃ e, r.entityOf n d.kind = .ok (some e))) ∧
    (∀ d ∈ (ofParameters ps).params, ∀ n, lower n = d.name → r.contains n = true →
      d.repeated = true → ∃ items, r.value? n = some (.list items) ∧
      (d.kind = .digit →
        ∃ xs, r.readAll n Value.asDigit? = some xs ∧ xs.length = items.length) ∧
      (d.kind = .duration →
        ∃ xs, r.readAll n Value.asDuration? = some xs ∧ xs.length = items.length) ∧
      (d.kind = .text ∨ d.kind = .word →
        ∃ xs, r.readAll n Value.asString? = some xs ∧ xs.length = items.length) ∧
      (d.kind = .command →
        ∃ xs, r.readAll n Value.asCommand? = some xs ∧ xs.length = items.length) ∧
      (d.kind.isEntity = true →
        ∃ xs, r.readAll n Value.asEntity? = some xs ∧ xs.length = items.length)) ∧
    (∀ n, r.contains n = false → ∀ (β : Type) (expected : String) (convert : Value → Option β),
      r.read n expected convert = .ok none ∧ r.readAll n convert = none) ∧
    (∀ n, (∀ d ∈ (ofParameters ps).params, d.name ≠ lower n) → r.contains n = false) ∧
    (∀ n (β : Type) (expected : String) (convert : Value → Option β) (f : Fault),
      r.read n expected convert = .error f ↔
        ∃ v, r.value? n = some v ∧ convert v = none ∧
          f = .typeMismatch n expected v.typeName) := by
  have normal := ofParameters_normal ps
  have typed := read_typed normal kinded read
  have suited : ∀ d ∈ (ofParameters ps).params, ∀ n, lower n = d.name → r.contains n = true →
      ∃ v, r.value? n = some v ∧ v.Suits d := by
    intro d declared n lowered present
    obtain ⟨v, stored⟩ := Option.isSome_iff_exists.mp present
    rw [Bindings.value?_of_lower lowered] at stored ⊢
    exact ⟨v, stored, typed.suits normal.distinct declared stored⟩
  refine ⟨?_, ?_, ?_, ?_, fun n β expected convert f => Bindings.read_eq_error_iff n expected convert f⟩
  · intro d declared n lowered present single
    obtain ⟨v, stored, suits⟩ := suited d declared n lowered present
    cases suits with
    | single _ kinded' => exact Bindings.read_of_ofKind stored kinded'
    | list repeated => simp [repeated] at single
  · intro d declared n lowered present repeated
    obtain ⟨v, stored, suits⟩ := suited d declared n lowered present
    cases suits with
    | single single => simp [repeated] at single
    | @list items _ _ kinded' =>
      exact ⟨items, stored, Bindings.readAll_of_ofKind stored kinded'⟩
  · intro n absent β expected convert
    have nothing : r.value? n = none := by simpa [Bindings.contains] using absent
    exact ⟨Bindings.read_of_value?_none nothing, Bindings.readAll_of_value?_none nothing⟩
  · intro n undeclared
    cases stored : r.entries.lookup (lower n) with
    | none => simp [Bindings.contains, Bindings.value?, stored]
    | some v =>
      obtain ⟨d, declared, named, -⟩ := typed (lower n) v stored
      exact absurd named (undeclared d declared)

/-- With the mention resolver, an id read for a role parameter is found, under its name in
capitals, by the role accessor. -/
theorem role_id_read_as_role :
    let ps : List Parameter := [⟨"role", .role, true, false⟩, ⟨"ids", .digit, false, true⟩]
    let r : Bindings :=
      ⟨[("role", .entity ⟨.role, 7, none⟩), ("ids", .list [.digit 1, .digit 2])]⟩
    (∀ k t e, ({} : Context).resolver.resolve k t = some e → e.kind = k) ∧
      (ofParameters ps).read {} "7 1 2" = .ok r ∧
      ∃ e, r.entityOf "ROLE" .role = .ok (some e) := by
  intro ps r
  have kinded : ∀ k t e, ({} : Context).resolver.resolve k t = some e → e.kind = k :=
    fun _ _ _ resolved => (Mention.resolve_kind resolved).2
  have read : (ofParameters ps).read {} "7 1 2" = .ok r := by rfl
  have found := (read_by_kind_never_mismatches ps kinded read).1 ⟨"role", .role, true, false⟩
    (by decide) "ROLE" (by decide) (by decide) rfl
  exact ⟨kinded, read, found.2.2.2.2.2 rfl⟩

end Signature

end ChatBot
