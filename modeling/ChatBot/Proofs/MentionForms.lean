import Mathlib
import ChatBot.Argument.Mention
import ChatBot.Proofs.DurationGrammar

/-!
# The forms of a mention

The mention resolver turns a token into an entity of the kind asked for. Its documentation
lists the forms it accepts (`Written`): the id alone for every entity kind, `<@id>` or
`<@!id>` for a user, `<@&id>` for a role, `<#id>` for a channel, a voice channel or a
category, and `<:name:id>` or `<a:name:id>` for an emote, which takes the name. An id is a
run of ASCII digits whose value is below 2^64, and a name a run of word characters.

The resolver reads an id alone as an unsigned number first, and that reading also takes a
leading `+`: so besides the documented forms it accepts `+` followed by an id alone. Inside
brackets the patterns match decimal digits of every script, but an id still has to read as
an ASCII number, so no other form gets through, and a token that does not start with `+`
resolves exactly when it is written in a documented form (`resolve_eq_some_iff_written`). The
main statement, `resolve_accepts_documented_forms_and_signed_ids`, says exactly this; it is
assembled from one reading lemma per piece of the resolver (`readU64_eq_some_iff`,
`enclosedDigits_eq_some_iff`, `emoteParts_plain_eq_some_iff`, `idOf_eq_some_iff`).
-/

namespace ChatBot

open Text

namespace Mention

/-- `IdDigits ds n`: `ds` is a non-empty run of ASCII digits whose decimal value is `n`. -/
def IdDigits (ds : List Char) (n : UInt64) : Prop :=
  ds ≠ [] ∧ (∀ c ∈ ds, isAsciiDigit c = true) ∧ digitsValue ds = n.toNat

/-- The documented ways of writing an entity of each kind. -/
inductive Written : Kind → String → Entity → Prop
  | id {k : Kind} {d : String} {n : UInt64} : k.isEntity = true → IdDigits d.toList n →
      Written k d ⟨k, n, none⟩
  | user {d : String} {n : UInt64} : IdDigits d.toList n →
      Written .user ("<@" ++ d ++ ">") ⟨.user, n, none⟩
  | nickname {d : String} {n : UInt64} : IdDigits d.toList n →
      Written .user ("<@!" ++ d ++ ">") ⟨.user, n, none⟩
  | role {d : String} {n : UInt64} : IdDigits d.toList n →
      Written .role ("<@&" ++ d ++ ">") ⟨.role, n, none⟩
  | channel {k : Kind} {d : String} {n : UInt64} : (k = .channel ∨ k = .voice ∨ k = .category) →
      IdDigits d.toList n → Written k ("<#" ++ d ++ ">") ⟨k, n, none⟩
  | emote {w d : String} {n : UInt64} : w.toList ≠ [] → (∀ c ∈ w.toList, isWordChar c = true) →
      IdDigits d.toList n → Written .emote ("<:" ++ w ++ ":" ++ d ++ ">") ⟨.emote, n, some w⟩
  | animated {w d : String} {n : UInt64} : w.toList ≠ [] →
      (∀ c ∈ w.toList, isWordChar c = true) → IdDigits d.toList n →
      Written .emote ("<a:" ++ w ++ ":" ++ d ++ ">") ⟨.emote, n, some w⟩

/-! ## Reading the pieces -/

/-- No ASCII digit is a sign or a bracket. -/
theorem ne_of_isAsciiDigit {c : Char} (ascii : isAsciiDigit c = true) :
    c ≠ '+' ∧ c ≠ '<' ∧ c ≠ '!' := by
  obtain ⟨k, small, rfl⟩ := Duration.exists_of_isAsciiDigit ascii
  have table : ∀ k < 10, Char.ofNat (48 + k) ≠ '+' ∧ Char.ofNat (48 + k) ≠ '<' ∧
      Char.ofNat (48 + k) ≠ '!' := by decide
  exact table k small

/-- An id reads exactly when its digits are ASCII and its value is below 2^64. -/
theorem idOf_eq_some_iff (ds : List Char) (n : UInt64) : idOf ds = some n ↔ IdDigits ds n := by
  unfold idOf
  cases read : readDigits ds with
  | none =>
    simp only [reduceCtorEq, false_iff]
    rintro ⟨nonempty, ascii, -⟩
    rw [(Duration.readDigits_eq_some_iff ds _).mpr ⟨nonempty, ascii, rfl⟩] at read
    cases read
  | some m =>
    obtain ⟨nonempty, ascii, rfl⟩ := (Duration.readDigits_eq_some_iff ds m).mp read
    dsimp only
    rw [Nat.pow_eq]
    by_cases small : digitsValue ds < 2 ^ 64
    · rw [if_pos small, Option.some.injEq, ← UInt64.toNat_inj, UInt64.toNat_ofNat_of_lt' small]
      exact ⟨fun same => ⟨nonempty, ascii, same⟩, fun ⟨_, _, same⟩ => same⟩
    · rw [if_neg small]
      simp only [reduceCtorEq, false_iff]
      rintro ⟨-, -, value⟩
      exact small (value ▸ n.toNat_lt)

/-- A number alone reads as an id, and so does one after a `+`. -/
theorem readU64_eq_some_iff (s : String) (n : UInt64) :
    readU64 s = some n ↔ IdDigits s.toList n ∨ ∃ ds, s.toList = '+' :: ds ∧ IdDigits ds n := by
  have asIdOf : readU64 s = idOf _ := rfl
  rw [asIdOf]
  split
  · rename_i rest signed
    have unsigned : ¬IdDigits ('+' :: rest) n := fun ⟨_, ascii, _⟩ =>
      (ne_of_isAsciiDigit (ascii '+' List.mem_cons_self)).1 rfl
    simp [idOf_eq_some_iff, unsigned, signed]
  · rename_i cs unsigned
    have noSign : ¬∃ ds, s.toList = '+' :: ds ∧ IdDigits ds n :=
      fun ⟨ds, signed, _⟩ => unsigned ds signed
    simp [idOf_eq_some_iff, noSign]

/-- A token that starts with `<` is no id. -/
theorem readU64_of_bracket {t : String} (opened : t.toList.head? = some '<') :
    readU64 t = none := by
  cases read : readU64 t with
  | none => rfl
  | some n =>
    rcases (readU64_eq_some_iff t n).mp read with ⟨_, ascii, _⟩ | ⟨ds, signed, _⟩
    · exact absurd rfl (ne_of_isAsciiDigit (ascii '<' (List.mem_of_mem_head? opened))).2.1
    · rw [signed] at opened
      cases opened

/-- The digits between an opening and a closing `>` are read when they are decimal digits. -/
theorem enclosedDigits_eq_some_iff (opening cs ds : List Char) :
    enclosedDigits opening cs = some ds ↔
      cs = opening ++ ds ++ ['>'] ∧ ds ≠ [] ∧ ∀ c ∈ ds, isDecimalDigit c = true := by
  unfold enclosedDigits
  constructor
  · intro found
    split at found
    · rename_i opened
      obtain ⟨inner, rfl⟩ := (List.isPrefixOf_iff_prefix.mp opened)
      simp only [List.drop_left] at found
      split at found
      · rename_i closed
        obtain ⟨body, rfl⟩ := List.getLast?_eq_some_iff.mp (by simpa using closed)
        rw [List.dropLast_concat] at found
        split at found
        · rename_i digits
          cases found
          simp only [Bool.and_eq_true, Bool.not_eq_true', List.isEmpty_eq_false_iff,
            List.all_eq_true] at digits
          exact ⟨by simp, digits.1, digits.2⟩
        · cases found
      · cases found
    · cases found
  · rintro ⟨rfl, nonempty, digits⟩
    have opened : opening.isPrefixOf (opening ++ ds ++ ['>']) = true :=
      List.isPrefixOf_iff_prefix.mpr ⟨ds ++ ['>'], by simp⟩
    have checked : (!ds.isEmpty && ds.all isDecimalDigit) = true := by
      simpa [List.isEmpty_iff, List.all_eq_true] using And.intro nonempty digits
    simp [checked]

/-- An animated emote mention is cut like a plain one. -/
theorem emoteParts_animated (rest : List Char) :
    emoteParts ('<' :: 'a' :: ':' :: rest) = emoteParts ('<' :: ':' :: rest) :=
  rfl

/-- The name and the digits of an emote mention `<:name:digits>`. -/
theorem emoteParts_plain_eq_some_iff (rest w ds : List Char) :
    emoteParts ('<' :: ':' :: rest) = some (w, ds) ↔
      rest = w ++ ':' :: (ds ++ ['>']) ∧ w ≠ [] ∧ (∀ c ∈ w, isWordChar c = true) ∧ ds ≠ [] ∧
        ∀ c ∈ ds, isDecimalDigit c = true := by
  have colon : isWordChar ':' = false := by decide +kernel
  simp only [emoteParts]
  constructor
  · intro found
    cases cut : rest.dropWhile isWordChar with
    | nil => simp [cut] at found
    | cons c tail =>
      by_cases separated : c = ':'
      · subst separated
        cases enclosed : enclosedDigits [] tail with
        | none => simp [cut, enclosed] at found
        | some digits =>
          simp only [cut, enclosed] at found
          split at found
          · cases found
          · rename_i named
            cases found
            obtain ⟨closed, nonempty, decimal⟩ :=
              (enclosedDigits_eq_some_iff [] tail ds).mp enclosed
            have whole := (List.takeWhile_append_dropWhile (p := isWordChar) (l := rest)).symm
            rw [cut, closed] at whole
            exact ⟨by simpa using whole, by simpa [List.isEmpty_iff] using named,
              fun c mem => List.mem_takeWhile_imp mem, nonempty, decimal⟩
      · simp [cut, separated] at found
  · rintro ⟨rfl, nonempty, word, digitsNonempty, decimal⟩
    have taken : (w ++ ':' :: (ds ++ ['>'])).takeWhile isWordChar = w := by
      rw [List.takeWhile_append_of_pos word]
      simp [colon]
    have dropped : (w ++ ':' :: (ds ++ ['>'])).dropWhile isWordChar = ':' :: (ds ++ ['>']) := by
      rw [List.dropWhile_append_of_pos word]
      simp [colon]
    have enclosed := (enclosedDigits_eq_some_iff [] (ds ++ ['>']) ds).mpr
      ⟨by simp, digitsNonempty, decimal⟩
    simp [taken, dropped, enclosed, List.isEmpty_iff, nonempty]

/-- Only a token opening with `<:` or `<a:` has emote parts. -/
theorem emoteParts_opening {cs : List Char} {parts : List Char × List Char}
    (found : emoteParts cs = some parts) :
    ∃ rest, cs = '<' :: ':' :: rest ∨ cs = '<' :: 'a' :: ':' :: rest := by
  unfold emoteParts at found
  split at found
  · exact ⟨_, .inr rfl⟩
  · exact ⟨_, .inl rfl⟩
  · cases found

/-- The id of a bracketed mention `opening ++ d ++ ">"`. -/
theorem enclosed_id_iff (opening t : String) (n : UInt64) :
    (enclosedDigits opening.toList t.toList).bind idOf = some n ↔
      ∃ d : String, t = opening ++ d ++ ">" ∧ IdDigits d.toList n := by
  constructor
  · intro found
    obtain ⟨ds, enclosed, read⟩ := Option.bind_eq_some_iff.mp found
    obtain ⟨spelled, -, -⟩ := (enclosedDigits_eq_some_iff _ _ ds).mp enclosed
    refine ⟨String.ofList ds, String.toList_inj.mp (by simp [spelled]), ?_⟩
    simpa using (idOf_eq_some_iff ds n).mp read
  · rintro ⟨d, rfl, digits⟩
    have enclosed := (enclosedDigits_eq_some_iff opening.toList (opening ++ d ++ ">").toList
      d.toList).mpr ⟨by simp, digits.1,
        fun c mem => Duration.isDecimalDigit_of_isAsciiDigit (digits.2.1 c mem)⟩
    rw [enclosed, Option.bind_some, idOf_eq_some_iff]
    exact digits

/-- A user mention `<@id>` is no nickname mention: an id does not start with `!`. -/
theorem enclosedDigits_nickname_of_user {d : String} {n : UInt64} (digits : IdDigits d.toList n) :
    enclosedDigits "<@!".toList ("<@" ++ d ++ ">").toList = none := by
  obtain ⟨c, rest, spelled⟩ := List.exists_cons_of_ne_nil digits.1
  have notBang : c ≠ '!' := (ne_of_isAsciiDigit (digits.2.1 c (by simp [spelled]))).2.2
  cases found : enclosedDigits "<@!".toList ("<@" ++ d ++ ">").toList with
  | none => rfl
  | some ds =>
    obtain ⟨spelled', -, -⟩ := (enclosedDigits_eq_some_iff _ _ ds).mp found
    simp [spelled] at spelled'
    exact absurd spelled'.1 notBang

/-! ## What the resolver accepts -/

/-- The emote mention of a name and an id, plain or animated. -/
theorem emote_of_parts {t : String} {rest w ds : List Char} {n : UInt64}
    (opened : t.toList = '<' :: ':' :: rest ∨ t.toList = '<' :: 'a' :: ':' :: rest)
    (parts : emoteParts ('<' :: ':' :: rest) = some (w, ds)) (digits : IdDigits ds n) :
    Written .emote t ⟨.emote, n, some (String.ofList w)⟩ := by
  obtain ⟨rfl, nonempty, word, -, -⟩ := (emoteParts_plain_eq_some_iff rest w ds).mp parts
  rcases opened with plain | animated
  · have spelled : t = "<:" ++ String.ofList w ++ ":" ++ String.ofList ds ++ ">" :=
      String.toList_inj.mp (by simp [plain])
    rw [spelled]
    exact .emote (by simpa using nonempty) (by simpa using word) (by simpa using digits)
  · have spelled : t = "<a:" ++ String.ofList w ++ ":" ++ String.ofList ds ++ ">" :=
      String.toList_inj.mp (by simp [animated])
    rw [spelled]
    exact .animated (by simpa using nonempty) (by simpa using word) (by simpa using digits)

/-- A token that reads as an id resolves to the entity of that id, when the kind is an
entity's. -/
theorem resolve_of_id {k : Kind} {t : String} {n : UInt64} (read : readU64 t = some n) :
    resolve k t = if k.isEntity then some ⟨k, n, none⟩ else none := by
  unfold resolve
  rw [read]

/-- Whatever the resolver accepts is written in a documented form, or is a `+` and an id. -/
theorem written_of_resolve {k : Kind} {t : String} {e : Entity} (resolved : resolve k t = some e) :
    Written k t e ∨
      (k.isEntity = true ∧ ∃ d n, t = "+" ++ d ∧ IdDigits d.toList n ∧ e = ⟨k, n, none⟩) := by
  cases read : readU64 t with
  | some n =>
    rw [resolve_of_id read] at resolved
    split at resolved
    · rename_i isEntity
      cases resolved
      rcases (readU64_eq_some_iff t n).mp read with plain | ⟨ds, signed, digits⟩
      · exact .inl (.id isEntity plain)
      · exact .inr ⟨isEntity, String.ofList ds, n, String.toList_inj.mp (by simp [signed]),
          by simpa using digits, rfl⟩
    · cases resolved
  | none =>
    unfold resolve at resolved
    left
    cases k
    case emote =>
      simp only [read] at resolved
      cases parts : emoteParts t.toList with
      | none => simp [parts] at resolved
      | some p =>
        obtain ⟨w, ds⟩ := p
        simp only [parts] at resolved
        obtain ⟨n, found, rfl⟩ := Option.map_eq_some_iff.mp resolved
        have digits := (idOf_eq_some_iff ds n).mp found
        obtain ⟨rest, opened⟩ := emoteParts_opening parts
        have plain : emoteParts ('<' :: ':' :: rest) = some (w, ds) := by
          rcases opened with spelled | spelled
          · rwa [spelled] at parts
          · rwa [spelled, emoteParts_animated] at parts
        exact emote_of_parts opened plain digits
    case user =>
      simp only [read, mentionId] at resolved
      obtain ⟨n, found, rfl⟩ := Option.map_eq_some_iff.mp resolved
      cases nickname : enclosedDigits "<@!".toList t.toList with
      | some ds =>
        rw [nickname, Option.orElse_some, ← nickname] at found
        obtain ⟨d, rfl, digits⟩ := (enclosed_id_iff "<@!" t n).mp found
        exact .nickname digits
      | none =>
        rw [nickname, Option.orElse_none] at found
        obtain ⟨d, rfl, digits⟩ := (enclosed_id_iff "<@" t n).mp found
        exact .user digits
    case role =>
      simp only [read, mentionId] at resolved
      obtain ⟨n, found, rfl⟩ := Option.map_eq_some_iff.mp resolved
      obtain ⟨d, rfl, digits⟩ := (enclosed_id_iff "<@&" t n).mp found
      exact .role digits
    case channel | voice | category =>
      simp only [read, mentionId] at resolved
      obtain ⟨n, found, rfl⟩ := Option.map_eq_some_iff.mp resolved
      obtain ⟨d, rfl, digits⟩ := (enclosed_id_iff "<#" t n).mp found
      exact .channel (by simp) digits
    all_goals simp [read, mentionId] at resolved

/-- A token that is no id is read as the bracketed mention of its kind, unless the kind is
emote. -/
theorem resolve_of_not_id {k : Kind} {t : String} (notId : readU64 t = none)
    (other : k ≠ .emote) : resolve k t = (mentionId k t.toList).map fun id => ⟨k, id, none⟩ := by
  unfold resolve
  rw [notId]
  cases k
  case emote => exact absurd rfl other
  all_goals rfl

/-- Every documented form resolves to its entity. -/
theorem resolve_of_written {k : Kind} {t : String} {e : Entity} (written : Written k t e) :
    resolve k t = some e := by
  cases written with
  | id isEntity digits =>
    have read := (readU64_eq_some_iff _ _).mpr (.inl digits)
    rw [resolve_of_id read, if_pos isEntity]
  | @user d n digits =>
    have bracket : readU64 ("<@" ++ d ++ ">") = none := readU64_of_bracket (by simp)
    have found := (enclosed_id_iff "<@" _ n).mpr ⟨d, rfl, digits⟩
    rw [resolve_of_not_id bracket (by decide)]
    unfold mentionId
    dsimp only
    rw [enclosedDigits_nickname_of_user digits, Option.orElse_none, found, Option.map_some]
  | @nickname d n digits =>
    have bracket : readU64 ("<@!" ++ d ++ ">") = none := readU64_of_bracket (by simp)
    have found := (enclosed_id_iff "<@!" _ n).mpr ⟨d, rfl, digits⟩
    obtain ⟨ds, enclosed, -⟩ := Option.bind_eq_some_iff.mp found
    rw [resolve_of_not_id bracket (by decide)]
    unfold mentionId
    dsimp only
    rw [enclosed, Option.orElse_some, ← enclosed, found, Option.map_some]
  | @role d n digits =>
    have bracket : readU64 ("<@&" ++ d ++ ">") = none := readU64_of_bracket (by simp)
    have found := (enclosed_id_iff "<@&" _ n).mpr ⟨d, rfl, digits⟩
    rw [resolve_of_not_id bracket (by decide)]
    unfold mentionId
    dsimp only
    rw [found, Option.map_some]
  | @channel k d n kind digits =>
    have bracket : readU64 ("<#" ++ d ++ ">") = none := readU64_of_bracket (by simp)
    have found := (enclosed_id_iff "<#" _ n).mpr ⟨d, rfl, digits⟩
    have other : k ≠ .emote := by rcases kind with rfl | rfl | rfl <;> decide
    rw [resolve_of_not_id bracket other]
    unfold mentionId
    rcases kind with rfl | rfl | rfl <;> rw [found, Option.map_some]
  | @emote w d n nonempty word digits =>
    have bracket : readU64 ("<:" ++ w ++ ":" ++ d ++ ">") = none := readU64_of_bracket (by simp)
    have parts := (emoteParts_plain_eq_some_iff (w.toList ++ ':' :: (d.toList ++ ['>'])) w.toList
      d.toList).mpr ⟨rfl, nonempty, word, digits.1,
        fun c mem => Duration.isDecimalDigit_of_isAsciiDigit (digits.2.1 c mem)⟩
    have spelled : ("<:" ++ w ++ ":" ++ d ++ ">").toList =
        '<' :: ':' :: (w.toList ++ ':' :: (d.toList ++ ['>'])) := by simp
    unfold resolve
    rw [bracket]
    dsimp only
    rw [spelled, parts]
    dsimp only
    rw [(idOf_eq_some_iff _ _).mpr digits, Option.map_some, String.ofList_toList]
  | @animated w d n nonempty word digits =>
    have bracket : readU64 ("<a:" ++ w ++ ":" ++ d ++ ">") = none := readU64_of_bracket (by simp)
    have parts := (emoteParts_plain_eq_some_iff (w.toList ++ ':' :: (d.toList ++ ['>'])) w.toList
      d.toList).mpr ⟨rfl, nonempty, word, digits.1,
        fun c mem => Duration.isDecimalDigit_of_isAsciiDigit (digits.2.1 c mem)⟩
    have spelled : ("<a:" ++ w ++ ":" ++ d ++ ">").toList =
        '<' :: 'a' :: ':' :: (w.toList ++ ':' :: (d.toList ++ ['>'])) := by simp
    unfold resolve
    rw [bracket]
    dsimp only
    rw [spelled, emoteParts_animated, parts]
    dsimp only
    rw [(idOf_eq_some_iff _ _).mpr digits, Option.map_some, String.ofList_toList]

/-- An id after a `+` resolves, for every entity kind. -/
theorem resolve_signed {k : Kind} (isEntity : k.isEntity = true) {d : String} {n : UInt64}
    (digits : IdDigits d.toList n) : resolve k ("+" ++ d) = some ⟨k, n, none⟩ := by
  have read := (readU64_eq_some_iff ("+" ++ d) n).mpr (.inr ⟨d.toList, by simp, digits⟩)
  rw [resolve_of_id read, if_pos isEntity]

/-- The resolver answers with an entity of the kind asked for, and only for entity kinds. -/
theorem resolve_kind {k : Kind} {t : String} {e : Entity} (resolved : resolve k t = some e) :
    k.isEntity = true ∧ e.kind = k := by
  rcases written_of_resolve resolved with written | ⟨isEntity, d, n, -, -, rfl⟩
  · cases written with
    | id isEntity _ => exact ⟨isEntity, rfl⟩
    | channel kind _ => rcases kind with rfl | rfl | rfl <;> exact ⟨rfl, rfl⟩
    | _ => exact ⟨rfl, rfl⟩
  · exact ⟨isEntity, rfl⟩

/-- Every documented form starts with `<` or with an ASCII digit, never with a sign. -/
theorem Written.head {k : Kind} {t : String} {e : Entity} (written : Written k t e) :
    ∃ c ∈ t.toList.head?, c = '<' ∨ isAsciiDigit c = true := by
  cases written with
  | id _ digits =>
    obtain ⟨c, rest, spelled⟩ := List.exists_cons_of_ne_nil digits.1
    exact ⟨c, by simp [spelled], .inr (digits.2.1 c (by simp [spelled]))⟩
  | _ => exact ⟨'<', by simp, .inl rfl⟩

/-- Unless a token starts with `+`, the resolver accepts exactly the documented forms. -/
theorem resolve_eq_some_iff_written {k : Kind} {t : String} {e : Entity}
    (unsigned : t.toList.head? ≠ some '+') : resolve k t = some e ↔ Written k t e := by
  refine ⟨fun resolved => ?_, resolve_of_written⟩
  rcases written_of_resolve resolved with written | ⟨-, d, n, rfl, -, -⟩
  · exact written
  · exact absurd (by simp) unsigned

/-- The mention resolver accepts the documented forms and, besides them, an id after a `+`.
For every kind `k`, token `t` and entity `e`, `resolve k t = some e` exactly when `t` writes
`e` in a documented form — the id alone for every entity kind, `<@id>` or `<@!id>` for a
user, `<@&id>` for a role, `<#id>` for a channel, a voice channel or a category,
`<:name:id>` or `<a:name:id>` for an emote, which takes the name, each id a run of ASCII
digits whose value is the entity's 64-bit id — or `k` is an entity kind and `t` is `+`
followed by an id alone. So the documented forms are exactly what resolves from a token
that does not start with `+`. The entity is always of the kind asked for, and a kind that
is no entity's resolves nothing. -/
theorem resolve_accepts_documented_forms_and_signed_ids (k : Kind) (t : String) (e : Entity) :
    (resolve k t = some e ↔ Written k t e ∨
      (k.isEntity = true ∧ ∃ d n, t = "+" ++ d ∧ IdDigits d.toList n ∧ e = ⟨k, n, none⟩)) ∧
    (t.toList.head? ≠ some '+' → (resolve k t = some e ↔ Written k t e)) ∧
    (resolve k t = some e → k.isEntity = true ∧ e.kind = k) ∧
    (k.isEntity = false → resolve k t = none) := by
  refine ⟨⟨written_of_resolve, ?_⟩, resolve_eq_some_iff_written, resolve_kind, fun other => ?_⟩
  · rintro (written | ⟨isEntity, d, n, rfl, digits, rfl⟩)
    · exact resolve_of_written written
    · exact resolve_signed isEntity digits
  · cases resolved : resolve k t with
    | none => rfl
    | some found =>
      have isEntity := (resolve_kind resolved).1
      rw [other] at isEntity
      cases isEntity

/-- The resolver reads `+5` as the user with id 5, although no documented form starts with a
sign. -/
theorem plus_sign_id_resolves :
    resolve .user "+5" = some ⟨.user, 5, none⟩ ∧ ¬Written .user "+5" ⟨.user, 5, none⟩ := by
  refine ⟨by decide +kernel, fun written => ?_⟩
  obtain ⟨c, first, form⟩ := written.head
  have sign : '+' = c := by simpa using first
  subst sign
  revert form
  decide

end Mention

end ChatBot
