import ChatBot.Registry
import ChatBot.Proofs.FirstWord

/-!
# Resolving a command line

A command line addresses a command in two stages. Its first word, lowercased, is the
label: the first root, in the order roots were added, whose name or an alias is exactly
the label is selected; there is none when the line is blank or no root answers to the
label. The words after it then walk down the selected root's tree: each word enters the
first child, in declared order, whose name or alias it matches up to lowercasing, and the
walk stops at the first word that names no child of the node reached (`Walk`, `Stops`).
The node reached is the command; the text after the walked words, trimmed, is left for its
arguments.

So the line's words are the label's word, the walked words and the remainder's words, in
that order, and the node's path is the root's path followed by the names of the nodes
entered, in every tree built from declarations (`Coherent`). Since labels and children are
compared through lowercase forms, which command a line addresses depends on its words only
through their lowercase forms.
-/

namespace ChatBot

open Text

namespace Command

variable {α : Type}

/-- A tree whose paths follow its names: each child's path is its parent's path followed
by the child's name. Every tree built from declarations is one. -/
inductive Coherent : Command α → Prop
  | node {c : Command α} (paths : ∀ d ∈ c.children, d.path = c.path.join d.name)
      (below : ∀ d ∈ c.children, Coherent d) : Coherent c

/-- From `c`, the words `ts` enter the nodes `ds` in turn and end at `d`: each word enters
the first child, in declared order, that it names up to lowercasing. -/
inductive Walk : Command α → List String → List (Command α) → Command α → Prop
  | stay (c : Command α) : Walk c [] [] c
  | enter {c d e : Command α} {t : String} {ts : List String} {ds : List (Command α)}
      (first : c.children.find? (·.matchesLabel t) = some d) (rest : Walk d ts ds e) :
      Walk c (t :: ts) (d :: ds) e

/-- The first of the words `ws`, if any, names no child of `c`: a walk at `c` goes no
further. -/
def Stops (c : Command α) (ws : List String) : Prop :=
  ∀ t ∈ ws.head?, ∀ d ∈ c.children, d.matchesLabel t = false

/-- Whether a word names a command depends only on its lowercase form. -/
theorem matchesLabel_congr (c : Command α) {t t' : String} (same : lower t = lower t') :
    c.matchesLabel t = c.matchesLabel t' := by
  simp [matchesLabel, same]

/-- Searching the children with their membership proofs finds what searching them
plainly finds. -/
theorem find?_attach_children (c : Command α) (p : Command α → Bool) :
    (c.children.attach.find? fun d => p d.1).map Subtype.val = c.children.find? p := by
  conv_rhs => rw [← List.attach_map_subtype_val c.children]
  rw [List.find?_map]
  rfl

/-- A child found among the children with their membership is found among the children. -/
theorem find?_attach_eq_some {c d : Command α} {p : Command α → Bool}
    {member : d ∈ c.children} (found : (c.children.attach.find? fun d => p d.1) = some ⟨d, member⟩) :
    c.children.find? p = some d := by
  rw [← find?_attach_children, found]
  rfl

/-- No child found among the children with their membership is none found among the
children. -/
theorem find?_attach_eq_none {c : Command α} {p : Command α → Bool}
    (found : (c.children.attach.find? fun d => p d.1) = none) : c.children.find? p = none := by
  rw [← find?_attach_children, found]
  rfl

/-! ## One walk down the tree -/

/-- When `findChild` enters no child, the text is handed back whole, and its first word
names no child. -/
theorem findChild_none {c : Command α} {s rem : String} (found : c.findChild s = (none, rem)) :
    rem = s ∧ c.Stops (words s) := by
  rw [findChild] at found
  split at found
  · rename_i blank
    cases found
    rw [(splitFirstToken_eq_none_iff s).mp blank]
    exact ⟨rfl, fun t head => by cases head⟩
  · rename_i token rest split
    split at found
    · rename_i missing
      cases found
      refine ⟨rfl, ?_⟩
      rw [(splitFirstToken_eq_some split).1]
      intro t head d member
      cases head
      have none_ := find?_attach_eq_none (p := fun d => d.matchesLabel token) missing
      simpa using List.find?_eq_none.mp none_ d member
    · split at found
      · cases found
      · split at found <;> cases found

/-- When `findChild` enters a child, it has walked one word or more down the tree, as far
as the words name children; what is left is the text after the walked words, trimmed. -/
theorem findChild_some {c d : Command α} {s rem : String} (found : c.findChild s = (some d, rem)) :
    ∃ ts ds, ts ≠ [] ∧ words s = ts ++ words rem ∧ Walk c ts ds d ∧ d.Stops (words rem) ∧
      trim rem = rem := by
  fun_induction c.findChild s generalizing d rem with
  | case1 c s blank => cases found
  | case2 c s token rest split missing => cases found
  | case3 c s token rest split child member entered empty =>
    cases found
    have cut := splitFirstToken_eq_some split
    have none_left : rest = "" := String.isEmpty_iff.mp empty
    subst none_left
    refine ⟨[token], [child], by simp, ?_, .enter (find?_attach_eq_some entered) (.stay child),
      fun t head => (by simp at head), rfl⟩
    rw [cut.1]
    rfl
  | case4 c s token rest split child member entered more deeper deeperRest below ih =>
    cases found
    obtain ⟨ts, ds, -, walked, walk, stops, trimmed⟩ := ih below
    refine ⟨token :: ts, child :: ds, by simp, ?_,
      .enter (find?_attach_eq_some entered) walk, stops, trimmed⟩
    rw [(splitFirstToken_eq_some split).1, walked]
    rfl
  | case5 c s token rest split child member entered more rest' below ih =>
    cases found
    have cut := splitFirstToken_eq_some split
    refine ⟨[token], [child], by simp, by rw [cut.1]; rfl,
      .enter (find?_attach_eq_some entered) (.stay child), (findChild_none below).2, cut.2⟩

/-- What `resolve` answers below a node: the end of the longest walk down the words, and the
text after the walked words, trimmed. -/
theorem resolve_spec (c : Command α) (s : String) :
    ∃ ts ds, words s = ts ++ words (c.resolve s).2 ∧ Walk c ts ds (c.resolve s).1 ∧
      (c.resolve s).1.Stops (words (c.resolve s).2) ∧ trim (c.resolve s).2 = (c.resolve s).2 := by
  unfold resolve
  cases found : c.findChild s with
  | mk node rem =>
    cases node with
    | some d =>
      obtain ⟨ts, ds, -, walked⟩ := findChild_some found
      exact ⟨ts, ds, walked⟩
    | none =>
      obtain ⟨rfl, stops⟩ := findChild_none found
      exact ⟨[], [], by simp [words_trim], .stay c, by simpa [words_trim] using stops,
        trim_trim rem⟩

/-- In a coherent tree, the end of a walk has the start's path followed by the names of
the nodes entered. -/
theorem Walk.path_eq {c d : Command α} {ts : List String} {ds : List (Command α)}
    (walk : Walk c ts ds d) (coherent : c.Coherent) :
    d.path.segments = c.path.segments ++ ds.map (·.name) := by
  induction walk with
  | stay => simp
  | @enter c d e t ts ds first rest ih =>
    obtain ⟨paths, below⟩ := coherent
    have child : d ∈ c.children := List.mem_of_find?_eq_some first
    rw [ih (below d child), paths d child]
    simp [Path.join]

/-- Words with the same lowercase form enter the same child. -/
theorem find?_matchesLabel_congr (c : Command α) {t t' : String} (same : lower t = lower t') :
    c.children.find? (·.matchesLabel t) = c.children.find? (·.matchesLabel t') := by
  congr 1
  funext d
  exact matchesLabel_congr d same

/-- A walk that stops at `c` before the word `r` finds no child of `c` named by `r`. -/
theorem Stops.find?_eq_none {c : Command α} {r : String} {rest : List String}
    (stops : c.Stops (r :: rest)) : c.children.find? (·.matchesLabel r) = none :=
  List.find?_eq_none.mpr fun d member => by simp [stops r rfl d member]

/-- Two walks from one node that both go as far as they can, along words with the same
lowercase forms, end at the same node after as many words. -/
theorem Walk.unique {c d d' : Command α} {ts ts' rest rest' : List String}
    {ds ds' : List (Command α)} (walk : Walk c ts ds d) (walk' : Walk c ts' ds' d')
    (stops : d.Stops rest) (stops' : d'.Stops rest')
    (same : (ts ++ rest).map lower = (ts' ++ rest').map lower) :
    d = d' ∧ ts.length = ts'.length := by
  induction walk generalizing ts' ds' with
  | stay c =>
    cases walk' with
    | stay => exact ⟨rfl, rfl⟩
    | @enter _ e _ t' _ _ first _ =>
      obtain ⟨r, more, rfl⟩ : ∃ r more, rest = r :: more := by
        cases rest with
        | nil => simp at same
        | cons r more => exact ⟨r, more, rfl⟩
      simp only [List.nil_append, List.map_cons, List.cons_append, List.cons.injEq] at same
      rw [← find?_matchesLabel_congr c same.1, stops.find?_eq_none] at first
      cases first
  | @enter c e d t ts ds first walk ih =>
    cases walk' with
    | stay =>
      obtain ⟨r, more, rfl⟩ : ∃ r more, rest' = r :: more := by
        cases rest' with
        | nil => simp at same
        | cons r more => exact ⟨r, more, rfl⟩
      simp only [List.nil_append, List.map_cons, List.cons_append, List.cons.injEq] at same
      rw [find?_matchesLabel_congr _ same.1, stops'.find?_eq_none] at first
      cases first
    | @enter _ e' _ t' ts' ds' first' walk' =>
      simp only [List.map_cons, List.cons_append, List.cons.injEq] at same
      rw [find?_matchesLabel_congr c same.1, first'] at first
      cases first
      obtain ⟨ends, lengths⟩ := ih walk' stops same.2
      exact ⟨ends, by simp [lengths]⟩

end Command


namespace Spec

variable {α : Type}

/-- A built command keeps its declared name. -/
@[simp] theorem buildAt_name (parent : Option Path) (s : Spec α) :
    (s.buildAt parent).name = s.name := by
  rw [buildAt.eq_def]

/-- A command built under a parent has the parent's path followed by its name. -/
@[simp] theorem buildAt_path_some (p : Path) (s : Spec α) :
    (s.buildAt (some p)).path = p.join s.name := by
  rw [buildAt.eq_def]

/-- Every tree built from declarations is coherent: the build places each child under its
parent's path. -/
theorem buildAt_coherent (parent : Option Path) (s : Spec α) : (s.buildAt parent).Coherent := by
  rw [buildAt.eq_def]
  refine .node ?_ ?_
  · intro d member
    simp only [List.mem_map, List.mem_attach, true_and, Subtype.exists] at member
    obtain ⟨c, _, rfl⟩ := member
    rw [buildAt_path_some, buildAt_name]
  · intro d member
    simp only [List.mem_map, List.mem_attach, true_and, Subtype.exists] at member
    obtain ⟨c, child, rfl⟩ := member
    exact buildAt_coherent _ c
termination_by sizeOf s
decreasing_by exact sizeOf_lt_of_child child

/-- A built root command is coherent. -/
theorem build_coherent (s : Spec α) : s.build.Coherent :=
  buildAt_coherent none s

end Spec

namespace Registry

variable {α : Type}

/-- Resolving is cutting off the first word, selecting the root its lowercase form names,
and resolving the rest of the line below that root. -/
theorem resolve_eq (r : Registry α) (input : String) :
    r.resolve input = (splitFirstToken input).bind fun (token, rest) =>
      (r.get? (lower token)).map fun root =>
        ⟨(root.resolve rest).1, lower token, (root.resolve rest).2⟩ := by
  unfold resolve
  cases splitFirstToken input with
  | none => rfl
  | some cut =>
    obtain ⟨token, rest⟩ := cut
    cases selected : r.get? (lower token) with
    | none => simp [selected]
    | some root =>
      cases resolved : root.resolve rest
      simp [selected, resolved]

/-- A line resolves to nothing exactly when it is blank or no root answers to its first
word lowercased. -/
theorem resolve_eq_none_iff (r : Registry α) (input : String) :
    r.resolve input = none ↔ words input = [] ∨
      ∃ t0 more, words input = t0 :: more ∧ ∀ c ∈ r.roots, c.matchesExact (lower t0) = false := by
  rw [resolve_eq]
  rcases splitFirstToken_spec input with ⟨blank, none_⟩ |
    ⟨lead, word, after, -, -, -, -, -, split, cut⟩
  · simp [none_, blank]
  · simp only [split, cut, Option.bind_some, Option.map_eq_none_iff, get?, List.find?_eq_none,
      Bool.not_eq_true, List.cons_ne_nil, false_or, List.cons.injEq]
    constructor
    · intro missing
      exact ⟨_, _, ⟨rfl, rfl⟩, missing⟩
    · rintro ⟨t0, more, ⟨rfl, -⟩, missing⟩
      exact missing

/-- What a resolved line is made of. The line is blanks, its first word `t0` and a text
`after` that is empty or starts with a blank. The label is `t0` lowercased, and the first
root answering to it exactly resolves `after` trimmed. The remainder has no blank at either
end, and the line's words are `t0`, the words walked down the root's tree, then the
remainder's words; the walk goes as far as the words name children, and in a coherent tree
the command's path is the root's path followed by the names of the nodes entered. -/
theorem resolve_eq_some {r : Registry α} (coherent : ∀ c ∈ r.roots, c.Coherent) {input : String}
    {res : Resolution α} (resolved : r.resolve input = some res) :
    ∃ lead t0 after root ts ds,
      input.toList = lead ++ t0.toList ++ after ∧ (∀ c ∈ lead, isBlank c = true) ∧
      (∀ c ∈ after.head?, isBlank c = true) ∧ res.label = lower t0 ∧
      r.roots.find? (·.matchesExact res.label) = some root ∧
      root.resolve (trim (String.ofList after)) = (res.command, res.remainder) ∧
      trim res.remainder = res.remainder ∧
      words input = t0 :: ts ++ words res.remainder ∧
      root.Walk ts ds res.command ∧ res.command.Stops (words res.remainder) ∧
      res.command.path.segments = root.path.segments ++ ds.map (·.name) := by
  rw [resolve_eq] at resolved
  rcases splitFirstToken_spec input with ⟨-, none_⟩ |
    ⟨lead, word, after, spelled, leading, -, -, blankAfter, split, cut⟩
  · simp [none_] at resolved
  · rw [split, Option.bind_some] at resolved
    obtain ⟨root, selected, rfl⟩ := Option.map_eq_some_iff.mp resolved
    obtain ⟨ts, ds, walked, walk, stops, trimmed⟩ :=
      Command.resolve_spec root (trim (String.ofList after))
    have rooted : root ∈ r.roots := List.mem_of_find?_eq_some selected
    refine ⟨lead, String.ofList word, after, root, ts, ds, by simpa using spelled, leading,
      blankAfter, rfl, selected, rfl, trimmed, ?_, walk, stops,
      walk.path_eq (coherent root rooted)⟩
    rw [cut, ← words_trim (String.ofList after), walked]
    rfl

/-- The command and label a line resolves to depend on its words only through their
lowercase forms: roots are selected by the lowercased first word, and children are matched
through lowercase forms. -/
theorem resolve_lowercase (r : Registry α) {input input' : String}
    (same : (words input).map lower = (words input').map lower) :
    (r.resolve input).map (fun res => (res.command, res.label)) =
      (r.resolve input').map (fun res => (res.command, res.label)) := by
  rw [resolve_eq, resolve_eq]
  rcases splitFirstToken_spec input with ⟨blank, none_⟩ |
    ⟨lead, word, after, -, -, -, -, -, split, cut⟩ <;>
  rcases splitFirstToken_spec input' with ⟨blank', none_'⟩ |
    ⟨lead', word', after', -, -, -, -, -, split', cut'⟩
  · simp [none_, none_']
  · rw [blank, cut'] at same
    simp at same
  · rw [blank', cut] at same
    simp at same
  · rw [cut, cut'] at same
    simp only [List.map_cons, List.cons.injEq] at same
    obtain ⟨label, rest⟩ := same
    rw [split, split', Option.bind_some, Option.bind_some]
    dsimp only
    rw [label]
    cases r.get? (lower (String.ofList word')) with
    | none => rfl
    | some root =>
      obtain ⟨ts, ds, walked, walk, stops, -⟩ := Command.resolve_spec root (trim (String.ofList after))
      obtain ⟨ts', ds', walked', walk', stops', -⟩ :=
        Command.resolve_spec root (trim (String.ofList after'))
      rw [words_trim] at walked walked'
      rw [walked, walked'] at rest
      have ends := (walk.unique walk' stops stops' rest).1
      simp [ends]

/-- Resolution is sound and complete with respect to selecting a root by the lowercased
first word and walking down its tree. A line resolves to nothing exactly when it is blank
or no root answers to its first word lowercased. Otherwise its label is that word
lowercased, the first root answering to it resolves the trimmed text after the word, the
remainder has no blank at either end, the line's words are the first word, the walked words
and the remainder's words, the walk goes as far as the words name children, and the
command's path is the root's path followed by the names of the nodes entered. Which command
and label a line resolves to depends on its words only through their lowercase forms. -/
theorem resolve_sound_complete (r : Registry α) (coherent : ∀ c ∈ r.roots, c.Coherent)
    (input : String) :
    (r.resolve input = none ↔ words input = [] ∨
      ∃ t0 more, words input = t0 :: more ∧ ∀ c ∈ r.roots, c.matchesExact (lower t0) = false) ∧
    (∀ res, r.resolve input = some res →
      ∃ lead t0 after root ts ds,
        input.toList = lead ++ t0.toList ++ after ∧ (∀ c ∈ lead, isBlank c = true) ∧
        (∀ c ∈ after.head?, isBlank c = true) ∧ res.label = lower t0 ∧
        r.roots.find? (·.matchesExact res.label) = some root ∧
        root.resolve (trim (String.ofList after)) = (res.command, res.remainder) ∧
        trim res.remainder = res.remainder ∧
        words input = t0 :: ts ++ words res.remainder ∧
        root.Walk ts ds res.command ∧ res.command.Stops (words res.remainder) ∧
        res.command.path.segments = root.path.segments ++ ds.map (·.name)) ∧
    (∀ input', (words input).map lower = (words input').map lower →
      (r.resolve input).map (fun res => (res.command, res.label)) =
        (r.resolve input').map (fun res => (res.command, res.label))) :=
  ⟨resolve_eq_none_iff r input, fun _ resolved => resolve_eq_some coherent resolved,
    fun _ same => resolve_lowercase r same⟩

/-- A root selected by an alias in capitals, and a child entered by its alias: the line
` CFG  P  ?x ` addresses `config prefix` with the argument text `?x`, and so does every
line with the same words up to case. -/
theorem alias_line_resolves :
    let r : Registry Unit := ⟨[Spec.build
      { name := "config", aliases := ["cfg"], children := [{ name := "prefix", aliases := ["p"] }] }]⟩
    (∀ c ∈ r.roots, c.Coherent) ∧
      (r.resolve " CFG  P  ?x ").map (fun res => (res.command.path.segments, res.label,
        res.remainder)) = some (["config", "prefix"], "cfg", "?x") ∧
      (r.resolve "cfg p ?X").map (fun res => (res.command, res.label)) =
        (r.resolve " CFG  P  ?x ").map (fun res => (res.command, res.label)) := by
  intro r
  have coherent : ∀ c ∈ r.roots, c.Coherent := by
    intro c member
    rw [List.mem_singleton.mp member]
    exact Spec.build_coherent _
  exact ⟨coherent, by decide +kernel,
    (resolve_sound_complete r coherent "cfg p ?X").2.2 " CFG  P  ?x " (by decide)⟩

end Registry

end ChatBot
