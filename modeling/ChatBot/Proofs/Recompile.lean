import ChatBot.Proofs.Lowercase
import ChatBot.Proofs.Extension

/-!
# Usage lines compile back

A signature's usage line is meant to be compiled again: each parameter prints as one word,
and reading the word undoes the printing. It does so for every parameter whose name does
not collide with the marks of a usage word: no blank and, unless the parameter is a flag,
no colon and no leading `!`; a flag's name must not end in `...` either, since that reads
back as the list marker.

Compiling guarantees all of this but the last. `[x...:flag]` declares a flag named `x...`,
whose usage `[!x...]` reads back as the flag `x`: the trailing `...` is taken off before
the `!` is seen. So compiling the usage line of a compiled signature gives the signature
back exactly when none of its flags has a name ending in `...`.
-/

namespace ChatBot

open Text

namespace Text

/-- A text with no blank is read as one word. -/
theorem wordsFrom_of_blankFree (word cs : List Char) (solid : ∀ c ∈ cs, isBlank c = false)
    (nonempty : word ++ cs ≠ []) : wordsFrom word cs = [word.reverse ++ cs] := by
  induction cs generalizing word with
  | nil =>
    have letters : word ≠ [] := by simpa using nonempty
    simp [wordsFrom, letters]
  | cons c rest ih =>
    have letter : isBlank c = false := solid c List.mem_cons_self
    have more := ih (c :: word) (fun d mem => solid d (List.mem_cons_of_mem c mem)) (by simp)
    rw [wordsFrom, letter, if_neg Bool.false_ne_true, more]
    simp

/-- A non-empty text with no blank is its own only word. -/
theorem words_of_blankFree {s : String} (solid : ∀ c ∈ s.toList, isBlank c = false)
    (nonempty : s ≠ "") : words s = [s] := by
  have letters : [] ++ s.toList ≠ [] := by simpa using nonempty
  simp [words, wordsOf, wordsFrom_of_blankFree [] s.toList solid letters]

/-- Words cut from a text hold no blank, when the word begun so far holds none. -/
theorem wordsFrom_blankFree (word cs : List Char) (solid : ∀ c ∈ word, isBlank c = false) :
    ∀ w ∈ wordsFrom word cs, ∀ c ∈ w, isBlank c = false := by
  induction cs generalizing word with
  | nil =>
    intro w mem c letter
    unfold wordsFrom at mem
    split at mem
    · simp at mem
    · rw [List.mem_singleton] at mem
      subst mem
      exact solid c (List.mem_reverse.mp letter)
  | cons d rest ih =>
    intro w mem
    unfold wordsFrom at mem
    split at mem
    · -- A blank ends the word read so far.
      split at mem
      · exact ih [] (by simp) w mem
      · rcases List.mem_cons.mp mem with here | later
        · subst here
          exact fun c letter => solid c (List.mem_reverse.mp letter)
        · exact ih [] (by simp) w later
    · rename_i letter
      refine ih (d :: word) ?_ w mem
      intro c mem
      rcases List.mem_cons.mp mem with same | old
      · subst same
        simpa using letter
      · exact solid c old

/-- No word of a text holds a blank. -/
theorem words_blankFree (s : String) :
    ∀ w ∈ words s, ∀ c ∈ w.toList, isBlank c = false := by
  intro w mem
  simp only [words, wordsOf, List.mem_map] at mem
  obtain ⟨cs, found, spelled⟩ := mem
  subst spelled
  simpa using wordsFrom_blankFree [] s.toList (by simp) cs found

/-- Words joined by single spaces split back into the same words. -/
theorem words_intercalate_space (ws : List String)
    (solid : ∀ w ∈ ws, (∀ c ∈ w.toList, isBlank c = false) ∧ w ≠ "") :
    words (" ".intercalate ws) = ws := by
  induction ws with
  | nil => rfl
  | cons w rest ih =>
    have first := solid w List.mem_cons_self
    cases rest with
    | nil => rw [String.intercalate_singleton, words_of_blankFree first.1 first.2]
    | cons v more =>
      have others := ih fun u mem => solid u (List.mem_cons_of_mem w mem)
      rw [String.intercalate_cons_cons, words_append_space, words_of_blankFree first.1 first.2,
        others, List.singleton_append]

end Text

namespace Kind

/-- A kind is read back from its tag. -/
@[simp] theorem ofName_tag (k : Kind) : ofName k.tag = k := by
  cases k <;> decide

/-- No tag holds a colon. -/
theorem tag_colonFree (k : Kind) : ':' ∉ k.tag.toList := by
  cases k <;> decide

/-- Tags are written in small Latin letters. -/
theorem tag_no_delimiter (k : Kind) : ∀ c ∈ k.tag.toList, ¬ Delimiter c := by
  have checked : (k.tag.toList.all fun c => !decide (Delimiter c)) = true := by
    cases k <;> decide
  intro c mem
  simpa using List.all_eq_true.mp checked c mem

/-- No tag starts with `!`. -/
theorem tag_head_ne_bang (k : Kind) : k.tag.toList.head? ≠ some '!' := by
  cases k <;> decide

/-- A tag ends in a letter, so nothing that ends in a tag ends in `...`. -/
theorem tag_not_ellipsis (k : Kind) (front : List Char) :
    ¬ ['.', '.', '.'] <:+ front ++ k.tag.toList := by
  rintro ⟨before, spelled⟩
  have last := congrArg List.getLast? spelled
  have letters : k.tag.toList ≠ [] := by cases k <;> decide
  have dot : (before ++ ['.', '.', '.']).getLast? = some '.' := by simp
  rw [List.getLast?_append_of_ne_nil _ letters, dot] at last
  cases k <;> exact absurd last (by decide)

end Kind

namespace Parameter

/-- The characters of a usage: the body in angle brackets when required, else in square
ones. -/
theorem usage_toList (p : Parameter) : p.usage.toList =
    (if p.required then '<' else '[') ::
      (p.usageBody.toList ++ [if p.required then '>' else ']']) := by
  unfold usage
  cases p.required <;> simp

end Parameter

namespace Signature

/-- An ellipsis at the end of a body is taken off and reported. -/
theorem dropEllipsis_append (cs : List Char) :
    dropEllipsis (cs ++ ['.', '.', '.']) = (cs, true) := by
  simp [dropEllipsis]

/-- A body that does not end in `...` is kept whole. -/
theorem dropEllipsis_of_not_suffix {cs : List Char} (plain : ¬ ['.', '.', '.'] <:+ cs) :
    dropEllipsis cs = (cs, false) := by
  unfold dropEllipsis
  rw [if_neg]
  intro marked
  simp only [Bool.and_eq_true, decide_eq_true_eq, beq_iff_eq] at marked
  exact plain (marked.2 ▸ List.drop_suffix _ cs)

/-- The first piece of a split holds no separator and begins the list. -/
theorem splitOnP_head {α : Type} (p : α → Bool) (xs : List α) :
    ∀ piece ∈ (xs.splitOnP p).head?, (∀ x ∈ piece, p x = false) ∧ piece <+: xs := by
  induction xs with
  | nil => simp [List.splitOnP_nil]
  | cons x rest ih =>
    rw [List.splitOnP_cons_eq_if_modifyHead]
    split
    · simp
    · rename_i kept
      obtain ⟨first, others, pieces⟩ := List.exists_cons_of_ne_nil (List.splitOnP_ne_nil p rest)
      obtain ⟨clean, begins⟩ := ih first (by simp [pieces])
      intro piece head
      simp only [pieces, List.modifyHead_cons, List.head?_cons, Option.mem_def,
        Option.some.injEq] at head
      subst head
      refine ⟨?_, List.prefix_cons_inj x |>.mpr begins⟩
      intro y mem
      rcases List.mem_cons.mp mem with here | later
      · subst here
        simpa using kept
      · exact clean y later

/-- What is inside the brackets is made of the word's characters. -/
theorem unwrap_subset {cs inner : List Char} {opening closing : Char}
    (unwrapped : unwrap cs opening closing = some inner) : ∀ c ∈ inner, c ∈ cs := by
  unfold unwrap at unwrapped
  split at unwrapped
  · rename_i first rest
    split at unwrapped
    · cases unwrapped
      intro c mem
      exact List.mem_cons_of_mem first (List.dropLast_subset rest mem)
    · cases unwrapped
  · cases unwrapped

/-- A word without its trailing ellipsis is made of the word's characters. -/
theorem dropEllipsis_subset (cs : List Char) : ∀ c ∈ (dropEllipsis cs).1, c ∈ cs := by
  unfold dropEllipsis
  split
  · exact fun c mem => List.mem_of_mem_take mem
  · exact fun c mem => mem

/-- A word declares its parameter with a body made of the word's own characters. -/
theorem wordParameter_spec (word : String) :
    ∃ body required repeated, (∀ c ∈ body, c ∈ word.toList) ∧
      wordParameter word = { bodyParameter body with required, repeated } := by
  unfold wordParameter
  dsimp only
  cases angle : unwrap word.toList '<' '>' with
  | some inner =>
    exact ⟨_, true, _,
      fun c mem => unwrap_subset angle c (dropEllipsis_subset inner c mem), rfl⟩
  | none =>
    cases square : unwrap word.toList '[' ']' with
    | some inner =>
      exact ⟨_, false, _,
        fun c mem => unwrap_subset square c (dropEllipsis_subset inner c mem), rfl⟩
    | none => exact ⟨_, true, _, dropEllipsis_subset word.toList, rfl⟩

/-- What a body declares: a name made of the body's characters or of a tag, and one that,
unless the body is a flag's `!` form, has no colon and does not start with `!`. -/
theorem bodyParameter_spec (body : List Char) :
    ∃ x k, bodyParameter body = Parameter.named (String.ofList x) k ∧
      (∀ c ∈ x, Delimiter c → c ∈ body) ∧
      (k ≠ .flag → ':' ∉ x ∧ x.head? ≠ some '!') := by
  unfold bodyParameter
  split
  · rename_i name
    exact ⟨name, .flag, rfl, fun c mem _ => List.mem_cons_of_mem '!' mem,
      fun notFlag => absurd rfl notFlag⟩
  · rename_i notBang
    obtain ⟨first, others, pieces⟩ :=
      List.exists_cons_of_ne_nil (List.splitOnP_ne_nil (fun c => c == ':') body)
    obtain ⟨clean, begins⟩ := splitOnP_head (fun c => c == ':') body first (by simp [pieces])
    have colonFree : ':' ∉ first := fun mem => by simpa using clean ':' mem
    have headFree : first.head? ≠ some '!' := by
      intro bang
      obtain ⟨rest, spelled⟩ := List.head?_eq_some_iff.mp bang
      obtain ⟨after, joined⟩ := begins
      exact notBang (rest ++ after) (by rw [← joined, spelled]; rfl)
    have split : body.splitOn ':' = first :: others := pieces
    cases others with
    | cons tag more =>
      rw [split]
      exact ⟨first, _, rfl, fun c mem _ => begins.subset mem,
        fun _ => ⟨colonFree, headFree⟩⟩
    | nil =>
      have whole : first = body := by
        simpa [split] using @List.intercalate_splitOn Char body _ _ ':'
      subst whole
      rw [split]
      dsimp only
      by_cases unknown : (Kind.ofName (String.ofList first) == .unknown) = true
      · rw [if_pos unknown]
        exact ⟨first, _, rfl, fun c mem _ => mem, fun _ => ⟨colonFree, headFree⟩⟩
      · rw [if_neg unknown]
        refine ⟨(Kind.ofName (String.ofList first)).tag.toList, _,
          by rw [String.ofList_toList], ?_, ?_⟩
        · exact fun c mem delimiter => absurd delimiter (Kind.tag_no_delimiter _ c mem)
        · exact fun _ => ⟨Kind.tag_colonFree _, Kind.tag_head_ne_bang _⟩

/-- A body of a plain name, a colon and a tag declares that name with the tag's kind. -/
theorem bodyParameter_named {name tag : List Char} (colonFree : ':' ∉ name)
    (tagColonFree : ':' ∉ tag) (bangFree : name.head? ≠ some '!') :
    bodyParameter (name ++ ':' :: tag) =
      Parameter.named (String.ofList name) (Kind.ofName (String.ofList tag)) := by
  have joined : [':'].intercalate [name, tag] = name ++ ':' :: tag := by simp
  have pieces : (name ++ ':' :: tag).splitOn ':' = [name, tag] := by
    rw [← joined]
    apply @List.splitOn_intercalate Char [name, tag] _ _ ':'
    · intro piece mem
      simp only [List.mem_cons, List.not_mem_nil, or_false] at mem
      rcases mem with same | same <;> (subst same; assumption)
    · simp
  unfold bodyParameter
  split
  · rename_i rest spelled
    exfalso
    apply bangFree
    cases name with
    | nil => simp at spelled
    | cons c more =>
      simp only [List.cons_append, List.cons.injEq] at spelled
      simp [spelled.1]
  · rw [pieces]
    simp

/-- A kind's tag alone declares a parameter of that kind named by the tag. -/
theorem bodyParameter_tag (k : Kind) : bodyParameter k.tag.toList = Parameter.named k.tag k := by
  cases k <;> decide

/-- Reading a usage takes off its brackets and its ellipsis, then reads the body. -/
theorem wordParameter_usage (p : Parameter) :
    wordParameter p.usage = { bodyParameter (dropEllipsis p.usageBody.toList).1 with
      required := p.required, repeated := (dropEllipsis p.usageBody.toList).2 } := by
  unfold wordParameter
  rw [Parameter.usage_toList]
  cases p.required <;> simp [unwrap]

/-- A parameter other than a flag reads back from its usage as itself, up to normal form,
when its name has no colon and does not start with `!`. -/
theorem normalize_wordParameter_usage {p : Parameter} (notFlag : p.isFlag = false)
    (colonFree : ':' ∉ p.name.toList) (bangFree : p.name.toList.head? ≠ some '!') :
    (wordParameter p.usage).normalize = p.normalize := by
  obtain ⟨named, spelled, declared, plain⟩ : ∃ named : List Char,
      p.usageBody.toList = named ++ (if p.repeated then ['.', '.', '.'] else []) ∧
        bodyParameter named = Parameter.named p.name p.kind ∧ ¬ ['.', '.', '.'] <:+ named := by
    by_cases same : p.name = p.kind.tag
    · refine ⟨p.kind.tag.toList, ?_, ?_, ?_⟩
      · cases repeated : p.repeated <;> simp [Parameter.usageBody, notFlag, same, repeated]
      · rw [bodyParameter_tag, same]
      · simpa using Kind.tag_not_ellipsis p.kind []
    · refine ⟨p.name.toList ++ ':' :: p.kind.tag.toList, ?_, ?_, ?_⟩
      · cases repeated : p.repeated <;> simp [Parameter.usageBody, notFlag, same, repeated]
      · rw [bodyParameter_named colonFree (Kind.tag_colonFree p.kind) bangFree]
        simp
      · simpa using Kind.tag_not_ellipsis p.kind (p.name.toList ++ [':'])
  have dropped : dropEllipsis p.usageBody.toList = (named, p.repeated) := by
    cases repeated : p.repeated
    · rw [spelled, repeated]
      simpa using dropEllipsis_of_not_suffix plain
    · rw [spelled, repeated, if_pos rfl, dropEllipsis_append]
  have kindNotFlag : (p.kind == .flag) = false := notFlag
  rw [wordParameter_usage, dropped, declared]
  simp [Parameter.normalize, Parameter.named, Parameter.isFlag, kindNotFlag]

/-- A flag reads back from its usage as the flag named by its name without a trailing
`...`. -/
theorem normalize_wordParameter_usage_flag {p : Parameter} (flag : p.isFlag = true) :
    (wordParameter p.usage).normalize =
      { p.normalize with name := lower (String.ofList (dropEllipsis p.name.toList).1) } := by
  have kind : p.kind = .flag := by simpa [Parameter.isFlag] using flag
  have body : p.usageBody.toList = '!' :: p.name.toList := by simp [Parameter.usageBody, flag]
  have dropped : dropEllipsis ('!' :: p.name.toList) =
      ('!' :: (dropEllipsis p.name.toList).1, (dropEllipsis p.name.toList).2) := by
    by_cases marked : ['.', '.', '.'] <:+ p.name.toList
    · obtain ⟨front, spelled⟩ := marked
      rw [← spelled, ← List.cons_append, dropEllipsis_append, dropEllipsis_append]
    · have stillPlain : ¬ ['.', '.', '.'] <:+ '!' :: p.name.toList := by
        rw [List.suffix_cons_iff]
        rintro (whole | inner)
        · simp at whole
        · exact marked inner
      rw [dropEllipsis_of_not_suffix marked, dropEllipsis_of_not_suffix stillPlain]
  rw [wordParameter_usage, body, dropped]
  simp [bodyParameter, Parameter.normalize, Parameter.named, kind, Parameter.isFlag,
    Kind.allowsRepeat]

end Signature

namespace Parameter

/-- Normalizing a parameter twice is normalizing it once. -/
@[simp] theorem normalize_normalize (p : Parameter) : p.normalize.normalize = p.normalize := by
  simp [normalize, isFlag]

/-- What compiling guarantees of every parameter it declares: the parameter is in normal
form, and its name is lowercase, has no blank and, unless the parameter is a flag, has no
colon and does not start with `!`. -/
structure Compiled (p : Parameter) : Prop where
  normal : p.normalize = p
  lowered : ∀ c ∈ p.name.toList, Lowered c
  blankFree : ∀ c ∈ p.name.toList, isBlank c = false
  colonFree : p.isFlag = false → ':' ∉ p.name.toList
  bangFree : p.isFlag = false → p.name.toList.head? ≠ some '!'

/-- A blank in a usage comes from the name: brackets, marks and tags have none. -/
theorem usage_blank_mem (p : Parameter) :
    ∀ c ∈ p.usage.toList, isBlank c = true → c ∈ p.name.toList := by
  intro c mem blank
  have untagged : c ∉ p.kind.tag.toList :=
    fun tagged => Kind.tag_no_delimiter p.kind c tagged (Or.inl blank)
  have unmarked : c ∉ ['<', '>', '[', ']', '!', ':', '.'] := by
    intro marked
    simp only [List.mem_cons, List.not_mem_nil, or_false] at marked
    rcases marked with same | same | same | same | same | same | same <;>
      (subst same; exact absurd blank (by decide))
  rw [usage_toList] at mem
  unfold usageBody at mem
  split_ifs at mem <;> simp_all

/-- The usage of a parameter whose name has no blank is one word. -/
theorem usage_word (p : Parameter) (blankFree : ∀ c ∈ p.name.toList, isBlank c = false) :
    (∀ c ∈ p.usage.toList, isBlank c = false) ∧ p.usage ≠ "" := by
  constructor
  · intro c mem
    cases blank : isBlank c
    · rfl
    · have clean := blankFree c (usage_blank_mem p c mem blank)
      rw [blank] at clean
      cases clean
  · intro empty
    have letters := usage_toList p
    rw [empty] at letters
    simp at letters

end Parameter

namespace Signature

/-- Every word with no blank declares a compiled parameter. -/
theorem wordParameter_compiled {word : String} (solid : ∀ c ∈ word.toList, isBlank c = false) :
    (wordParameter word).normalize.Compiled := by
  obtain ⟨body, required, repeated, within, read⟩ := wordParameter_spec word
  obtain ⟨x, k, declared, delimiters, plain⟩ := bodyParameter_spec body
  have named : (wordParameter word).normalize.name = lower (String.ofList x) := by
    simp [read, declared, Parameter.normalize, Parameter.named]
  have kind : (wordParameter word).normalize.kind = k := by
    simp [read, declared, Parameter.normalize, Parameter.named]
  have fromX : ∀ c ∈ (wordParameter word).normalize.name.toList, Delimiter c → c ∈ x := by
    intro c mem delimiter
    rw [named] at mem
    simpa using lower_delimiter _ mem delimiter
  have notFlagKind : (wordParameter word).normalize.isFlag = false → k ≠ .flag := by
    intro notFlag isFlag
    simp [Parameter.isFlag, kind, isFlag] at notFlag
  refine ⟨Parameter.normalize_normalize _, ?_, ?_, ?_, ?_⟩
  · rw [named]
    exact lower_lowered _
  · intro c mem
    cases blank : isBlank c
    · rfl
    · have delimiter : Delimiter c := Or.inl blank
      have solidC := solid c (within c (delimiters c (fromX c mem delimiter) delimiter))
      rw [blank] at solidC
      cases solidC
  · intro notFlag colon
    exact (plain (notFlagKind notFlag)).1 (fromX ':' colon (Or.inr (Or.inl rfl)))
  · intro notFlag bang
    rw [named] at bang
    have unlowered := lower_head_delimiter _ bang (Or.inr (Or.inr rfl))
    rw [String.toList_ofList] at unlowered
    exact (plain (notFlagKind notFlag)).2 unlowered

/-- Keeping the first parameter of each name keeps a sublist. -/
theorem keepFirst_sublist (seen : List String) (ps : List Parameter) :
    (keepFirst seen ps).Sublist ps := by
  induction ps generalizing seen with
  | nil => exact List.Sublist.refl []
  | cons p rest ih =>
    unfold keepFirst
    split
    · exact (ih seen).cons p
    · exact (ih (p.name :: seen)).cons_cons p

/-- Parameters with distinct names, none of them seen before, are all kept. -/
theorem keepFirst_of_nodup (seen : List String) (ps : List Parameter)
    (distinct : (ps.map Parameter.name).Nodup) (fresh : ∀ p ∈ ps, p.name ∉ seen) :
    keepFirst seen ps = ps := by
  induction ps generalizing seen with
  | nil => rfl
  | cons p rest ih =>
    simp only [List.map_cons, List.nodup_cons] at distinct
    have unseen : seen.contains p.name = false := by simpa using fresh p List.mem_cons_self
    rw [keepFirst, unseen, if_neg Bool.false_ne_true, ih (p.name :: seen) distinct.2]
    intro q member
    simp only [List.mem_cons, not_or]
    exact ⟨fun same => distinct.1 (same ▸ List.mem_map_of_mem member),
      fresh q (List.mem_cons_of_mem p member)⟩

/-- Every parameter of a compiled signature is compiled. -/
theorem compile_params_compiled (spec : String) : ∀ p ∈ (compile spec).params, p.Compiled := by
  intro p member
  have declared : p ∈ ((words spec).map wordParameter).map Parameter.normalize :=
    (keepFirst_sublist [] _).subset member
  simp only [List.map_map, List.mem_map, Function.comp] at declared
  obtain ⟨word, spoken, built⟩ := declared
  subst built
  exact wordParameter_compiled (words_blankFree spec word spoken)

/-- The words of a usage line are the usages of the parameters, when no name holds a
blank. -/
theorem words_usage (g : Signature)
    (blankFree : ∀ p ∈ g.params, ∀ c ∈ p.name.toList, isBlank c = false) :
    words g.usage = g.params.map Parameter.usage := by
  apply words_intercalate_space
  intro u mem
  obtain ⟨p, member, spelled⟩ := List.mem_map.mp mem
  subst spelled
  exact Parameter.usage_word p (blankFree p member)

/-- Compiling a usage line reads each parameter back from its usage. -/
theorem compile_usage (g : Signature)
    (blankFree : ∀ p ∈ g.params, ∀ c ∈ p.name.toList, isBlank c = false) :
    compile g.usage =
      ⟨keepFirst [] (g.params.map fun p => (wordParameter p.usage).normalize)⟩ := by
  rw [compile, words_usage g blankFree, ofParameters, List.map_map, List.map_map]
  rfl

end Signature

namespace Parameter

open Signature

/-- A compiled parameter reads back from its usage as itself, unless it is a flag whose
name ends in `...`. -/
theorem Compiled.reread_eq {p : Parameter} (compiled : p.Compiled)
    (plain : p.isFlag = true → ¬ ['.', '.', '.'] <:+ p.name.toList) :
    (wordParameter p.usage).normalize = p := by
  cases flag : p.isFlag
  · rw [normalize_wordParameter_usage flag (compiled.colonFree flag) (compiled.bangFree flag),
      compiled.normal]
  · rw [normalize_wordParameter_usage_flag flag, dropEllipsis_of_not_suffix (plain flag),
      String.ofList_toList, lower_of_lowered compiled.lowered, compiled.normal]

/-- A compiled flag whose name ends in `...` reads back under the name without it. -/
theorem Compiled.reread_ne {p : Parameter} (compiled : p.Compiled) (flag : p.isFlag = true)
    (marked : ['.', '.', '.'] <:+ p.name.toList) : (wordParameter p.usage).normalize ≠ p := by
  obtain ⟨front, spelled⟩ := marked
  intro same
  have named := congrArg Parameter.name same
  rw [normalize_wordParameter_usage_flag flag, ← spelled, dropEllipsis_append] at named
  have kept : lower (String.ofList front) = String.ofList front := by
    apply lower_of_lowered
    intro c mem
    rw [String.toList_ofList] at mem
    exact compiled.lowered c (spelled ▸ List.mem_append_left _ mem)
  simp only [kept] at named
  have lengths := congrArg (fun s => s.toList.length) named
  simp only [String.toList_ofList, ← spelled, List.length_append] at lengths
  simp at lengths

end Parameter

namespace Signature

/-- Compiling the usage line of a compiled signature gives the signature back exactly when
none of its flags has a name ending in `...`. -/
theorem compile_usage_eq_iff (spec : String) :
    compile (compile spec).usage = compile spec ↔
      ∀ p ∈ (compile spec).params, p.isFlag = true → ¬ ['.', '.', '.'] <:+ p.name.toList := by
  have compiled := compile_params_compiled spec
  rw [compile_usage _ fun p member => (compiled p member).blankFree]
  constructor
  · -- Reading back keeps at most as many parameters as there are, so none may change.
    intro same p member flag marked
    have kept :
        keepFirst [] ((compile spec).params.map fun p => (wordParameter p.usage).normalize) =
          (compile spec).params := congrArg Signature.params same
    have unchanged : (compile spec).params.map (fun p => (wordParameter p.usage).normalize) =
        (compile spec).params :=
      ((keepFirst_sublist [] _).eq_of_length (by rw [kept, List.length_map])).symm.trans kept
    have fixed : (wordParameter p.usage).normalize = p :=
      List.map_inj_left.mp (unchanged.trans (List.map_id _).symm) p member
    exact (compiled p member).reread_ne flag marked fixed
  · intro plain
    have unchanged : (compile spec).params.map (fun p => (wordParameter p.usage).normalize) =
        (compile spec).params := by
      conv_rhs => rw [← List.map_id (compile spec).params]
      exact List.map_inj_left.mpr fun p member => (compiled p member).reread_eq (plain p member)
    have distinct : ((compile spec).params.map Parameter.name).Nodup :=
      ofParameters_names_nodup _
    rw [unchanged, keepFirst_of_nodup [] _ distinct (by simp)]

/-- The flag declared as `[x...:flag]` is named `x...`; its usage `[!x...]` compiles to a flag
named `x`, so the usage line does not compile back to the signature. -/
theorem dotted_flag_usage_recompiles_differently :
    compile (compile "[x...:flag]").usage ≠ compile "[x...:flag]" := by
  decide +kernel

end Signature

end ChatBot
