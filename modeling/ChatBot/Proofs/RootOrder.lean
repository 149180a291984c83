import Mathlib.Data.List.Nodup
import ChatBot.Registry

/-!
# The registry as an insertion-ordered collection

The registry keeps its root commands in the order they were registered and knows them by
name. Adding a root whose name is taken is refused and changes nothing; any other root is
appended. Removing a name takes out the one root of that name and keeps the others in order,
or changes nothing when no root has it. Clearing takes out every root. So along every
sequence of these changes from the empty registry no two roots share a name (`Distinct`).

Lookups read the roots in registration order: a label selects the first root whose name or
one of whose aliases is exactly the label, and the registry contains a label exactly when
that lookup finds a root. Names are unique but aliases are not compared, so an alias of an
earlier root shadows the name of a later one.
-/

namespace ChatBot

open Text

namespace Registry

variable {α : Type}

/-- The registry that a sequence of changes leaves, starting from the empty one. -/
def ofChanges (changes : List (Change α)) : Registry α :=
  changes.foldl change empty

/-- No two roots share a name. -/
def Distinct (r : Registry α) : Prop :=
  r.names.Nodup

/-- A name is taken exactly when some root has it. -/
theorem mem_names {r : Registry α} {name : String} :
    name ∈ r.names ↔ ∃ c ∈ r.roots, c.name = name := by
  simp [names]

/-! ## Adding and removing -/

/-- Adding a root whose name is taken is refused and changes nothing. -/
theorem add_of_taken {r : Registry α} {c : Command α} (taken : c.name ∈ r.names) :
    r.add c = (r, false) := by
  obtain ⟨d, member, named⟩ := mem_names.mp taken
  have found : r.roots.any (fun d => d.name == c.name) = true :=
    List.any_eq_true.mpr ⟨d, member, by simp [named]⟩
  simp [add, found]

/-- Adding a root whose name is free appends it. -/
theorem add_of_fresh {r : Registry α} {c : Command α} (fresh : c.name ∉ r.names) :
    r.add c = (⟨r.roots ++ [c]⟩, true) := by
  have missing : r.roots.any (fun d => d.name == c.name) = false := by
    rw [List.any_eq_false]
    intro d member same
    exact fresh (mem_names.mpr ⟨d, member, by simpa using same⟩)
  simp [add, missing]

/-- Removing a name no root has changes nothing and returns nothing. -/
theorem remove_of_absent {r : Registry α} {name : String} (absent : name ∉ r.names) :
    r.remove name = (r, none) := by
  have missing : r.roots.find? (fun d => d.name == name) = none := by
    rw [List.find?_eq_none]
    intro d member same
    exact absent (mem_names.mpr ⟨d, member, by simpa using same⟩)
  simp [remove, missing]

/-- Erasing the first root of a name that no other root has is keeping every other root. -/
theorem eraseP_name_eq_filter {roots : List (Command α)} (distinct : (roots.map (·.name)).Nodup)
    (name : String) :
    roots.eraseP (fun d => d.name == name) = roots.filter (fun d => d.name != name) := by
  induction roots with
  | nil => rfl
  | cons d rest ih =>
    rw [List.map_cons, List.nodup_cons] at distinct
    by_cases named : d.name = name
    · -- No later root has the name: the filter keeps all of them.
      have others : ∀ e ∈ rest, (e.name != name) = true := by
        intro e member
        have : e.name ≠ d.name := fun same => distinct.1 (List.mem_map.mpr ⟨e, member, same⟩)
        simpa [← named] using this
      simp [named, List.filter_eq_self.mpr others]
    · simp [named, ih distinct.2]

/-- Removing a name that a root has returns that root and keeps every other root, in order. -/
theorem remove_of_named {r : Registry α} {c : Command α} {name : String} (distinct : r.Distinct)
    (member : c ∈ r.roots) (named : c.name = name) :
    r.remove name = (⟨r.roots.filter (fun d => d.name != name)⟩, some c) := by
  obtain ⟨d, found⟩ : ∃ d, r.roots.find? (fun d => d.name == name) = some d :=
    Option.isSome_iff_exists.mp (List.find?_isSome.mpr ⟨c, member, by simp [named]⟩)
  have same : d = c := by
    have dMember := List.mem_of_find?_eq_some found
    have dNamed : d.name = name := by simpa using List.find?_some found
    exact List.inj_on_of_nodup_map distinct dMember member (dNamed.trans named.symm)
  rw [remove, found, same, eraseP_name_eq_filter distinct]

/-! ## The invariant along every sequence of changes -/

/-- Every change keeps the root names distinct. -/
theorem Distinct.change {r : Registry α} (distinct : r.Distinct) (ch : Change α) :
    (r.change ch).Distinct := by
  cases ch with
  | add c =>
    by_cases taken : c.name ∈ r.names
    · rwa [Registry.change, add_of_taken taken]
    · rw [Registry.change, add_of_fresh taken]
      simpa [Distinct, names, List.nodup_append] using
        ⟨distinct, fun d member same => taken (mem_names.mpr ⟨d, member, same⟩)⟩
  | remove name =>
    have kept : List.Sublist (r.remove name).1.roots r.roots := by
      unfold remove
      split
      · exact List.Sublist.refl _
      · exact List.eraseP_sublist
    exact distinct.sublist (kept.map _)
  | clear => exact List.nodup_nil

/-- Along every sequence of changes from the empty registry the root names stay distinct. -/
theorem ofChanges_distinct (changes : List (Change α)) : (ofChanges changes).Distinct := by
  suffices ∀ r : Registry α, r.Distinct → (changes.foldl change r).Distinct from
    this empty List.nodup_nil
  induction changes with
  | nil => exact fun _ distinct => distinct
  | cons ch changes ih => exact fun r distinct => ih _ (distinct.change ch)

/-! ## Lookups -/

/-- A label matches a root exactly when it is the root's name or one of its aliases. -/
theorem matchesExact_iff (c : Command α) (label : String) :
    c.matchesExact label = true ↔ c.name = label ∨ label ∈ c.aliases := by
  simp only [Command.matchesExact, Command.labels, List.contains_cons, Bool.or_eq_true,
    beq_iff_eq, List.contains_iff_mem]
  rw [eq_comm]

/-- A label fails to match a root exactly when it is neither its name nor an alias. -/
theorem matchesExact_eq_false_iff (c : Command α) (label : String) :
    c.matchesExact label = false ↔ c.name ≠ label ∧ label ∉ c.aliases := by
  rw [← not_or, ← matchesExact_iff, Bool.not_eq_true]

/-- A label selects the first root, in registration order, whose name or an alias is exactly
the label. -/
theorem get?_eq_some_iff (r : Registry α) (label : String) (c : Command α) :
    r.get? label = some c ↔ ∃ pre post, r.roots = pre ++ c :: post ∧
      (c.name = label ∨ label ∈ c.aliases) ∧ ∀ d ∈ pre, d.name ≠ label ∧ label ∉ d.aliases := by
  rw [get?, List.find?_eq_some_iff_append, matchesExact_iff]
  constructor
  · rintro ⟨matched, pre, post, split, earlier⟩
    refine ⟨pre, post, split, matched, fun d member => ?_⟩
    exact (matchesExact_eq_false_iff d label).mp (by simpa using earlier d member)
  · rintro ⟨pre, post, split, matched, earlier⟩
    refine ⟨matched, pre, post, split, fun d member => ?_⟩
    simpa using (matchesExact_eq_false_iff d label).mpr (earlier d member)

/-- The registry contains a label exactly when a lookup of it finds a root. -/
theorem contains_eq_isSome_get? (r : Registry α) (label : String) :
    r.contains label = (r.get? label).isSome := by
  rw [contains, get?, List.isSome_find?]

/-- The suggestions for a start are the root names, in order, that begin with it
lowercased. -/
theorem suggestions_eq (r : Registry α) (start : String) :
    r.suggestions start = r.names.filter fun name => (lower start).isPrefixOf name := by
  simp [suggestions, names, List.filter_map, Function.comp_def]

/-- The registry behaves as an insertion-ordered collection keyed by root name, along every
sequence of additions, removals and clearings from the empty registry. Root names stay
pairwise distinct. Adding a root appends it when no root has its name, and otherwise is
refused and changes nothing. Removing a name returns the one root of that name and keeps the
others in order, or returns nothing and changes nothing. A label selects the first root, in
registration order, whose name or an alias is exactly the label, and the registry contains
the label exactly when there is one. The roots listed in help are the listed roots in order,
and the suggestions for a start are the root names, in order, that begin with it
lowercased. -/
theorem ofChanges_insertion_ordered (changes : List (Change α)) :
    let r := ofChanges changes
    r.Distinct ∧
      (∀ c, c.name ∉ r.names → r.add c = (⟨r.roots ++ [c]⟩, true)) ∧
      (∀ c, c.name ∈ r.names → r.add c = (r, false)) ∧
      (∀ name c, c ∈ r.roots → c.name = name →
        r.remove name = (⟨r.roots.filter (fun d => d.name != name)⟩, some c)) ∧
      (∀ name, name ∉ r.names → r.remove name = (r, none)) ∧
      (∀ label c, r.get? label = some c ↔ ∃ pre post, r.roots = pre ++ c :: post ∧
        (c.name = label ∨ label ∈ c.aliases) ∧ ∀ d ∈ pre, d.name ≠ label ∧ label ∉ d.aliases) ∧
      (∀ label, r.contains label = (r.get? label).isSome) ∧
      r.visible = r.roots.filter (·.listed) ∧
      (∀ start, r.suggestions start = r.names.filter fun name => (lower start).isPrefixOf name) :=
  have distinct := ofChanges_distinct changes
  ⟨distinct, fun _ fresh => add_of_fresh fresh, fun _ taken => add_of_taken taken,
    fun _ _ member named => remove_of_named distinct member named,
    fun _ absent => remove_of_absent absent, get?_eq_some_iff _, contains_eq_isSome_get? _, rfl,
    suggestions_eq _⟩

end Registry

end ChatBot
