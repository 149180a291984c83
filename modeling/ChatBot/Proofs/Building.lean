import ChatBot.Proofs.Resolution

/-!
# Building a command tree

Commands are declared bottom-up, each declaration holding its child declarations, and built
top-down: a node receives its path from its parent as it is built. So in every built tree a
node's path is the names of its ancestors, from the root down, followed by its own name, and
its depth is the number of those names. Its parent is the command at its path less its last
name, and only the root has none. Its signature is compiled from its declared arguments, and
its usage is its path followed by the signature's usage when the signature has parameters.
Its children are its child declarations, built below it in declared order, and its aliases are
the declared ones in order with later repeats dropped.

`Descends` names a node of a tree together with its ancestors, for declarations and built
commands alike; the main result reads every node of a built tree back to the declaration it
was built from.
-/

namespace ChatBot

/-- `Descends children t above n`: `n` is a node of the tree rooted at `t` whose nodes have
`children`, and `above` are its ancestors, from `t` down to its parent. -/
inductive Descends {β : Type} (children : β → List β) (t : β) : List β → β → Prop
  | root : Descends children t [] t
  | child {above : List β} {p n : β} (line : Descends children t above p)
      (member : n ∈ children p) : Descends children t (above ++ [p]) n

/-- Keeping the first of each string is the library's first-occurrence deduplication of
those not already seen. -/
theorem keepFirstStrings_eq_eraseDups (seen items : List String) :
    keepFirstStrings seen items = (items.filter fun a => !seen.contains a).eraseDups := by
  induction items generalizing seen with
  | nil => rfl
  | cons a rest ih =>
    by_cases known : seen.contains a
    · rw [keepFirstStrings, if_pos known, ih, List.filter_cons, if_neg (by simpa using known)]
    · rw [keepFirstStrings, if_neg known, ih, List.filter_cons, if_pos (by simpa using known),
        List.eraseDups_cons, List.filter_filter]
      congr 2
      apply List.filter_congr
      intro x _
      rw [List.contains_cons, Bool.not_or, Bool.and_comm]

namespace Spec

variable {α : Type}

/-! ## One declaration built -/

/-- A root command's path is its name alone. -/
@[simp] theorem buildAt_path_none (s : Spec α) : (s.buildAt none).path = Path.root s.name := by
  rw [buildAt.eq_def]

/-- A built command's signature is compiled from its declared arguments. -/
@[simp] theorem buildAt_signature (parent : Option Path) (s : Spec α) :
    (s.buildAt parent).signature = Signature.compile s.arguments := by
  rw [buildAt.eq_def]

/-- A built command keeps its aliases in order, each once. -/
@[simp] theorem buildAt_aliases (parent : Option Path) (s : Spec α) :
    (s.buildAt parent).aliases = s.aliases.eraseDups := by
  rw [buildAt.eq_def]
  simp [keepFirstStrings_eq_eraseDups]

/-- The children of a built command are its child declarations, built in order below it. -/
theorem buildAt_children (parent : Option Path) (s : Spec α) :
    (s.buildAt parent).children = s.children.map (buildAt (some (s.buildAt parent).path)) := by
  rw [buildAt.eq_def]
  simp

/-- The children of a built command are its declared children, built under its path. -/
theorem mem_buildAt_children {parent : Option Path} {s : Spec α} {n : Command α} :
    n ∈ (s.buildAt parent).children ↔
      ∃ c ∈ s.children, n = c.buildAt (some (s.buildAt parent).path) := by
  rw [buildAt_children, List.mem_map]
  constructor
  · rintro ⟨c, member, rfl⟩
    exact ⟨c, member, rfl⟩
  · rintro ⟨c, member, rfl⟩
    exact ⟨c, member, rfl⟩

/-! ## Every node of a built tree -/

/-- Every node of a built tree is built from a declaration at the same place of the declared
tree, below its parent's path, and its path is the names of its ancestors followed by its
own name. The induction follows the node's line of descent from the root. -/
theorem build_descends {b : Spec α} {above : List (Command α)} {n : Command α}
    (line : Descends Command.children b.build above n) :
    ∃ ss s, Descends Spec.children b ss s ∧ ss.map (·.name) = above.map (·.name) ∧
      n = s.buildAt (above.getLast?.map (·.path)) ∧
      n.path.segments = above.map (·.name) ++ [n.name] := by
  induction line with
  | root => exact ⟨[], b, .root, rfl, rfl, by simp [build, Path.root]⟩
  | @child above p n _ member ih =>
    obtain ⟨ss, s, declared, names, rfl, path⟩ := ih
    obtain ⟨c, declaredChild, rfl⟩ := mem_buildAt_children.mp member
    refine ⟨ss ++ [s], c, declared.child declaredChild, ?_, by simp, ?_⟩
    · simp [names]
    · simp [path, Path.join]

/-- A node's parent is the command at its path less its last name: the path of its nearest
ancestor, and none for the root. -/
theorem build_parent? {b : Spec α} {above : List (Command α)} {n : Command α}
    (line : Descends Command.children b.build above n) :
    n.parent? = above.getLast?.map (·.path) := by
  obtain ⟨-, -, -, -, -, path⟩ := build_descends line
  cases line with
  | root => simp [Command.parent?, Path.depth, path]
  | @child above p _ line' _ =>
    obtain ⟨-, -, -, -, -, parentPath⟩ := build_descends line'
    have deep : ¬ n.path.depth ≤ 1 := by simp [Path.depth, path]
    rw [Command.parent?, if_neg deep, path]
    simp [← parentPath]

/-- Building a command tree assigns consistent paths, parents and usages. Take any node `n`
of the tree built from `b`, with ancestors `above` from the root down. Its path is the
ancestors' names followed by its own, so its depth is one more than the number of ancestors;
its parent is the path of its nearest ancestor, so only the root has none and is a root. It
is built from a declaration `s` at the same place of the declared tree: its signature is
compiled from `s`'s arguments, its usage is its path with the names separated by blanks,
followed by a blank and the signature's usage when the signature has parameters; its
children are `s`'s child declarations built below it in declared order; and its aliases are
`s`'s, first occurrences kept, in order. -/
theorem built_node_consistent (b : Spec α) {above : List (Command α)} {n : Command α}
    (line : Descends Command.children b.build above n) :
    ∃ ss s, Descends Spec.children b ss s ∧ ss.map (·.name) = above.map (·.name) ∧
      n.name = s.name ∧
      n.path.segments = above.map (·.name) ++ [n.name] ∧
      n.path.depth = above.length + 1 ∧
      n.parent? = above.getLast?.map (·.path) ∧
      (n.isRoot = true ↔ above = []) ∧
      n.signature = Signature.compile s.arguments ∧
      n.usage = " ".intercalate (above.map (·.name) ++ [n.name]) ++
        (if n.signature.params.isEmpty then "" else " " ++ n.signature.usage) ∧
      n.children = s.children.map (buildAt (some n.path)) ∧
      n.aliases = s.aliases.eraseDups := by
  obtain ⟨ss, s, declared, names, built, path⟩ := build_descends line
  have depth : n.path.depth = above.length + 1 := by simp [Path.depth, path]
  refine ⟨ss, s, declared, names, by simp [built], path, depth, build_parent? line, ?_,
    by simp [built], ?_, by rw [built, buildAt_children], by simp [built]⟩
  · simp [Command.isRoot, depth]
  · unfold Command.usage Path.render
    rw [path]
    split <;> simp [String.append_assoc]

/-- The `prefix` command declared under `config`: a node of depth two whose parent is
`config` and whose usage is its path followed by its argument. -/
theorem prefix_node_consistent :
    let b : Spec Unit :=
      { name := "config", aliases := ["cfg"],
        children := [{ name := "prefix", arguments := "<value:word>", aliases := ["p", "p"] }] }
    let n := buildAt (some (Path.root "config"))
      ({ name := "prefix", arguments := "<value:word>", aliases := ["p", "p"] } : Spec Unit)
    Descends Command.children b.build [b.build] n ∧ n.path.depth = 2 ∧
      n.parent? = some (Path.root "config") ∧ n.usage = "config prefix <value:word>" := by
  intro b n
  have member : n ∈ b.build.children :=
    mem_buildAt_children.mpr ⟨_, List.mem_singleton_self _, by rw [buildAt_path_none]⟩
  have line : Descends Command.children b.build [b.build] n := Descends.child .root member
  obtain ⟨-, -, -, -, -, -, depth, parent, -, -, usage, -, -⟩ := built_node_consistent b line
  have root : b.build.path = Path.root "config" := buildAt_path_none b
  refine ⟨line, depth, by rw [parent, List.getLast?_singleton, Option.map_some, root], ?_⟩
  have compiled : (Signature.compile "<value:word>").usage = "<value:word>" := by decide +kernel
  have nonempty : (Signature.compile "<value:word>").params.isEmpty = false := by decide +kernel
  rw [usage, List.map_singleton, build, buildAt_name, buildAt_name, buildAt_signature,
    nonempty, compiled]
  rfl

end Spec

end ChatBot
