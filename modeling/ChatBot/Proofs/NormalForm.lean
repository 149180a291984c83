import ChatBot.Proofs.Recompile
import ChatBot.Argument.Stored

/-!
# The normal form of a signature

A signature is in normal form when its parameter names are distinct and lowercase, no
flag is required or takes a list, and no text parameter takes a list. Every way of
building a signature puts it there: from parameters, by compiling a usage line, by
reading a stored list, and the empty default. What building keeps is said exactly:
the parameters are the normalized inputs with every later repeat of a name dropped, in
input order (`List.eraseDupsBy` on names). Building again from a normal signature gives
it back, so normalizing twice is normalizing once.

Building from parameters and compiling their usage line agree whenever the usage line
reads back word by word: no name holds a blank, no name other than a flag's holds a colon
or starts with `!`, and no flag's name ends in `...`.
-/

namespace ChatBot

open Text

namespace Parameter

/-- The fields a normalized parameter has, and which make normalizing change nothing. -/
structure Normal (p : Parameter) : Prop where
  lowercase : lower p.name = p.name
  flagOptional : p.kind = .flag → p.required = false
  flagSingle : p.kind = .flag → p.repeated = false
  textSingle : p.kind = .text → p.repeated = false

/-- A normalized parameter is normal. -/
theorem normalize_normal (p : Parameter) : p.normalize.Normal where
  lowercase := lower_lower p.name
  flagOptional flag := by
    have kind : p.kind = .flag := flag
    simp [normalize, isFlag, kind]
  flagSingle flag := by
    have kind : p.kind = .flag := flag
    simp [normalize, kind, Kind.allowsRepeat]
  textSingle text := by
    have kind : p.kind = .text := text
    simp [normalize, kind, Kind.allowsRepeat]

/-- Normalizing a normal parameter changes nothing. -/
theorem Normal.normalize_eq {p : Parameter} (normal : p.Normal) : p.normalize = p := by
  have required : (p.required && !p.isFlag) = p.required := by
    cases flag : p.isFlag
    · simp
    · simp [normal.flagOptional (by simpa [isFlag] using flag)]
  have repeated : (p.repeated && p.kind.allowsRepeat) = p.repeated := by
    cases kind : p.kind <;>
      simp [Kind.allowsRepeat, normal.flagSingle, normal.textSingle, kind]
  simp only [normalize, normal.lowercase, required, repeated]

/-- A parameter reads back from its usage as its normal form, when the usage reads back:
a name other than a flag's has no colon and does not start with `!`, and a flag's name does
not end in `...`. -/
theorem normalize_wordParameter_usage_of_plain {p : Parameter}
    (colonFree : p.isFlag = false → ':' ∉ p.name.toList)
    (bangFree : p.isFlag = false → p.name.toList.head? ≠ some '!')
    (plain : p.isFlag = true → ¬ ['.', '.', '.'] <:+ p.name.toList) :
    (Signature.wordParameter p.usage).normalize = p.normalize := by
  cases flag : p.isFlag
  · exact Signature.normalize_wordParameter_usage flag (colonFree flag) (bangFree flag)
  · rw [Signature.normalize_wordParameter_usage_flag flag,
      Signature.dropEllipsis_of_not_suffix (plain flag), String.ofList_toList]
    rfl

end Parameter

namespace Signature

/-- What every signature is kept in: distinct lowercase names, flags optional and single,
text single. -/
structure Normal (g : Signature) : Prop where
  distinct : (g.params.map Parameter.name).Nodup
  lowercase : ∀ p ∈ g.params, lower p.name = p.name
  flagOptional : ∀ p ∈ g.params, p.kind = .flag → p.required = false ∧ p.repeated = false
  textSingle : ∀ p ∈ g.params, p.kind = .text → p.repeated = false

/-- Two parameters of the same name count as repeats. -/
def sameName (p q : Parameter) : Bool :=
  p.name == q.name

/-- Keeping the first parameter of each name is the library's first-occurrence
deduplication by name, after dropping the names already seen. -/
theorem keepFirst_eq_eraseDupsBy (seen : List String) (ps : List Parameter) :
    keepFirst seen ps = (ps.filter fun p => !seen.contains p.name).eraseDupsBy sameName := by
  induction ps generalizing seen with
  | nil => rfl
  | cons p rest ih =>
    by_cases known : seen.contains p.name = true
    · rw [keepFirst, if_pos known, ih, List.filter_cons_of_neg (by simpa using known)]
    · rw [keepFirst, if_neg known, ih, List.filter_cons_of_pos (by simpa using known),
        List.eraseDupsBy_cons, List.filter_filter]
      have dropped : (rest.filter fun q => !(p.name :: seen).contains q.name) =
          rest.filter fun q => decide (sameName q p = false) && !seen.contains q.name := by
        apply List.filter_congr
        intro q _
        by_cases same : q.name = p.name <;> simp [sameName, same]
      rw [dropped]

/-- The parameters of a signature built from parameters: the normalized inputs, each later
repeat of a name dropped, in input order. -/
theorem ofParameters_params (ps : List Parameter) :
    (ofParameters ps).params = (ps.map Parameter.normalize).eraseDupsBy sameName := by
  rw [ofParameters, keepFirst_eq_eraseDupsBy]
  simp

/-- Every signature built from parameters is normal. -/
theorem ofParameters_normal (ps : List Parameter) : (ofParameters ps).Normal := by
  have normalized : ∀ p ∈ (ofParameters ps).params, p.Normal := by
    intro p member
    obtain ⟨q, -, rfl⟩ := List.mem_map.mp ((keepFirst_sublist [] _).subset member)
    exact Parameter.normalize_normal q
  exact ⟨ofParameters_names_nodup ps, fun p member => (normalized p member).lowercase,
    fun p member flag => ⟨(normalized p member).flagOptional flag,
      (normalized p member).flagSingle flag⟩,
    fun p member text => (normalized p member).textSingle text⟩

/-- Building again from the parameters of a normal signature gives it back. -/
theorem ofParameters_of_normal {g : Signature} (normal : g.Normal) : ofParameters g.params = g := by
  have unchanged : g.params.map Parameter.normalize = g.params := by
    conv_rhs => rw [← List.map_id g.params]
    apply List.map_congr_left
    intro p member
    exact Parameter.Normal.normalize_eq ⟨normal.lowercase p member, fun flag =>
      (normal.flagOptional p member flag).1, fun flag => (normal.flagOptional p member flag).2,
      normal.textSingle p member⟩
  rw [ofParameters, unchanged, keepFirst_of_nodup [] _ normal.distinct (by simp)]

/-- Normalizing twice is normalizing once. -/
theorem ofParameters_idem (ps : List Parameter) :
    ofParameters (ofParameters ps).params = ofParameters ps :=
  ofParameters_of_normal (ofParameters_normal ps)

/-- A compiled signature is in normal form. -/
theorem compile_normal (spec : String) : (compile spec).Normal :=
  ofParameters_normal _

/-- The empty signature is in normal form. -/
theorem default_normal : (default : Signature).Normal :=
  ⟨List.nodup_nil, fun _ member => (by cases member), fun _ member => (by cases member),
    fun _ member => (by cases member)⟩

/-- A stored signature read back is normal, whatever format it is stored in. -/
theorem readStored_normal {format : ParameterFormat} {text : String} {g : Signature}
    (read : readStored format text = .ok g) : g.Normal := by
  unfold readStored at read
  split at read
  · cases read
    exact ofParameters_normal _
  · cases read

/-- Building a signature from parameters is compiling their usage line, whenever each
usage reads back: no name holds a blank, no name other than a flag's holds a colon or
starts with `!`, and no flag's name ends in `...`. Names may be in capitals or repeat,
flags may be marked required or as lists and text as a list: both sides normalize them
the same way. -/
theorem ofParameters_eq_compile_usage (ds : List Parameter)
    (blankFree : ∀ p ∈ ds, ∀ c ∈ p.name.toList, isBlank c = false)
    (colonFree : ∀ p ∈ ds, p.isFlag = false → ':' ∉ p.name.toList)
    (bangFree : ∀ p ∈ ds, p.isFlag = false → p.name.toList.head? ≠ some '!')
    (plain : ∀ p ∈ ds, p.isFlag = true → ¬ ['.', '.', '.'] <:+ p.name.toList) :
    ofParameters ds = compile (" ".intercalate (ds.map Parameter.usage)) := by
  have line : " ".intercalate (ds.map Parameter.usage) = (⟨ds⟩ : Signature).usage := rfl
  have normalized :
      ds.map (fun p => (wordParameter p.usage).normalize) = ds.map Parameter.normalize :=
    List.map_congr_left fun p member => Parameter.normalize_wordParameter_usage_of_plain
      (colonFree p member) (bangFree p member) (plain p member)
  rw [line, compile_usage ⟨ds⟩ blankFree, ofParameters]
  exact congrArg (fun ps => Signature.mk (keepFirst [] ps)) normalized.symm

/-- Capital names, a required list flag, a text list and a repeated name: built directly
or compiled from `<User:user...> <!Silent> [Reason:text...] [user:word]`, the signature is
the same. -/
theorem capitals_and_repeats_compile_alike :
    let ds : List Parameter := [⟨"User", .user, true, true⟩, ⟨"Silent", .flag, true, true⟩,
      ⟨"Reason", .text, false, true⟩, ⟨"user", .word, false, false⟩]
    " ".intercalate (ds.map Parameter.usage) =
        "<User:user...> <!Silent> [Reason:text...] [user:word]" ∧
      ofParameters ds = compile (" ".intercalate (ds.map Parameter.usage)) := by
  intro ds
  have blankFree : ∀ p ∈ ds, ∀ c ∈ p.name.toList, isBlank c = false := by
    have checked : (ds.all fun p => p.name.toList.all fun c => !isBlank c) = true := by decide
    simpa using checked
  have colonFree : ∀ p ∈ ds, p.isFlag = false → ':' ∉ p.name.toList := by
    have checked : (ds.all fun p => p.isFlag || !p.name.toList.contains ':') = true := by decide
    intro p member notFlag
    simpa [notFlag] using List.all_eq_true.mp checked p member
  have bangFree : ∀ p ∈ ds, p.isFlag = false → p.name.toList.head? ≠ some '!' := by
    have checked : (ds.all fun p => p.isFlag || p.name.toList.head? != some '!') = true := by
      decide
    intro p member notFlag
    simpa [notFlag] using List.all_eq_true.mp checked p member
  have plain : ∀ p ∈ ds, p.isFlag = true → ¬ ['.', '.', '.'] <:+ p.name.toList := by
    have checked :
        (ds.all fun p => !p.isFlag || !decide (['.', '.', '.'] <:+ p.name.toList)) = true := by
      decide
    intro p member flag
    simpa [flag] using List.all_eq_true.mp checked p member
  exact ⟨by decide, ofParameters_eq_compile_usage ds blankFree colonFree bangFree plain⟩

end Signature

end ChatBot
