import ChatBot.Format.Json

/-!
# Reading back what is written

The JSON reader reads back, at every shape it accepts, what a compact writer writes: text and
choices quoted with `quote`'s escapes, truth values as `true` and `false`, lists and objects
with commas and no blanks. `Fits.reads` says so for every datum; `parse_eq_of_fits` then
reads a whole document.

The reader is a scan over bytes. `Reads x l ahead a` says that `x`, started at any offset
where the bytes `l` stand followed by `ahead`, gives `a` and stops right after `l`: it may
look at `ahead` (a list is over when `]` comes, a key is next when `"` comes) but takes
none of it. Every reading step has such a lemma, and a reading is assembled from them along
the reader's own definitions, as `Reads.bind` composes steps.
-/

namespace ChatBot

namespace JsonFormat

variable {α β : Type}

/-! ## The bytes of a text -/

/-- The UTF-8 bytes of a text. -/
def bytesOf (s : String) : List UInt8 :=
  s.toByteArray.data.toList

/-- The empty text has no bytes. -/
@[simp] theorem bytesOf_empty : bytesOf "" = [] := rfl

/-- The bytes of two texts one after the other. -/
@[simp] theorem bytesOf_append (s t : String) : bytesOf (s ++ t) = bytesOf s ++ bytesOf t := by
  simp [bytesOf]

/-- A one-character text is the character's UTF-8 encoding. -/
@[simp] theorem bytesOf_singleton (c : Char) :
    bytesOf (String.singleton c) = String.utf8EncodeChar c := by
  simp [bytesOf, String.toByteArray_singleton, List.utf8Encode_singleton]

/-- The bytes of joined texts are the texts' bytes one after the other. -/
theorem bytesOf_join (ss : List String) : bytesOf (String.join ss) = ss.flatMap bytesOf := by
  induction ss with
  | nil => rfl
  | cons s rest ih => simp [ih]

/-- Byte runs with a comma between each two, as the items of a list and the entries of an
object are written. -/
def commaSeparated : List (List UInt8) → List UInt8
  | [] => []
  | first :: rest => first ++ rest.flatMap (44 :: ·)

/-- Texts joined by commas are their bytes with a comma between each two. -/
theorem bytesOf_intercalate (ss : List String) :
    bytesOf (",".intercalate ss) = commaSeparated (ss.map bytesOf) := by
  match ss with
  | [] => rfl
  | s :: rest =>
    induction rest generalizing s with
    | nil => simp [commaSeparated]
    | cons t rest ih =>
      have comma : bytesOf "," = [44] := rfl
      rw [String.intercalate_cons_cons, bytesOf_append, bytesOf_append, ih, comma]
      simp [commaSeparated]

/-- The bytes of a text's characters, each escaped as `quote` escapes it. -/
def escapedBytes (s : String) : List UInt8 :=
  s.toList.flatMap fun c => bytesOf (escapeChar c)

/-- A quoted text is its escaped bytes between two double quotes. -/
theorem bytesOf_quote (s : String) : bytesOf (quote s) = 34 :: escapedBytes s ++ [34] := by
  simp [quote, bytesOf_join, escapedBytes, List.flatMap_map]
  rfl

/-- A character `quote` writes as itself: no control character, quote or backslash. -/
theorem escapeChar_of_plain {c : Char} (low : 32 ≤ c.toNat) (quote : c ≠ '"')
    (backslash : c ≠ '\\') :
    escapeChar c = String.singleton c := by
  have notControl : ¬ c.toNat < 32 := by omega
  have notBackspace : c.toNat ≠ 8 := by omega
  have notFormFeed : c.toNat ≠ 12 := by omega
  have notNewline : c ≠ '\n' := fun same => by subst same; simp at low
  have notReturn : c ≠ '\r' := fun same => by subst same; simp at low
  have notTab : c ≠ '\t' := fun same => by subst same; simp at low
  simp [escapeChar, quote, backslash, notNewline, notReturn, notTab, notBackspace, notFormFeed,
    notControl]

/-! ## Bytes at an offset -/

section Offsets

variable {b : ByteArray} {i : Nat} {c : UInt8} {rest : List UInt8}

/-- When the bytes from offset `i` start with `c`, the byte at `i` is `c`. -/
theorem byte_of_drop (here : b.data.toList.drop i = c :: rest) : ∃ h : i < b.size, b[i] = c := by
  have lt : i < b.data.toList.length := by
    rcases Nat.lt_or_ge i b.data.toList.length with lt | ge
    · exact lt
    · rw [List.drop_of_length_le ge] at here
      cases here
  rw [List.drop_eq_getElem_cons lt] at here
  exact ⟨by simpa using lt,
    by simpa [ByteArray.getElem_eq_getElem_data] using (List.cons.inj here).1⟩

/-- When the bytes from offset `i` start with `c`, looking up `i` finds `c`. -/
theorem getElem?_of_drop (here : b.data.toList.drop i = c :: rest) : b[i]? = some c := by
  obtain ⟨h, rfl⟩ := byte_of_drop here
  exact getElem?_pos b i h

/-- Past the byte at offset `i`, the bytes from `i + 1` are the rest. -/
theorem drop_succ_of_drop (here : b.data.toList.drop i = c :: rest) :
    b.data.toList.drop (i + 1) = rest := by
  rw [← List.drop_drop, here]
  rfl

/-- The bytes from any offset are no more than all the bytes. -/
theorem length_le_of_drop {l : List UInt8} (here : b.data.toList.drop i = l) :
    l.length ≤ b.size := by
  have := congrArg List.length here
  simp at this
  omega

/-- The bytes from offset `i` end within the array. -/
theorem size_of_drop (here : b.data.toList.drop i = c :: rest) :
    i + (c :: rest).length ≤ b.size := by
  have := congrArg List.length here
  simp at this ⊢
  omega

end Offsets

/-! ## The string loop

`stringFrom` takes a string's bytes one at a time, or one escape at a time. Each character
`quote` escapes is taken back as its own UTF-8 bytes: a two-byte escape `\x`, a `\u00XY`
escape of a control character, or the character's bytes as they are. -/

section Strings

variable {b : ByteArray} {i : Nat} {acc : ByteArray} {rest : List UInt8}

/-- A double quote ends the string, with the bytes taken so far. -/
theorem stringFrom_close (here : b.data.toList.drop i = 34 :: rest) (keep : Bool) :
    stringFrom b keep i acc = .ok (acc, i + 1) := by
  obtain ⟨h, hc⟩ := byte_of_drop here
  rw [stringFrom, dif_pos h]
  simp [hc]

/-- A plain byte (not a control byte, a quote or a backslash) is taken as it is. -/
theorem stringFrom_plain {c : UInt8} (here : b.data.toList.drop i = c :: rest)
    (plain : 32 ≤ c ∧ c ≠ 34 ∧ c ≠ 92) :
    stringFrom b true i acc = stringFrom b true (i + 1) (acc.push c) := by
  obtain ⟨h, hc⟩ := byte_of_drop here
  obtain ⟨low, quote, backslash⟩ := plain
  rw [stringFrom, dif_pos h]
  simp [hc, quote, backslash, UInt8.not_lt.mpr low]

/-- A backslash is taken with the escape that follows it, as the bytes it stands for. -/
theorem stringFrom_escape {bytes : ByteArray} {j : Nat} (here : b.data.toList.drop i = 92 :: rest)
    (escaped : escape b (i + 1) = .ok (bytes, j)) (ahead : i < j) :
    stringFrom b true i acc = stringFrom b true j (acc ++ bytes) := by
  obtain ⟨h, hc⟩ := byte_of_drop here
  rw [stringFrom, dif_pos h]
  simp [hc, escaped, ahead]

/-- The one-letter escapes, each with the byte it stands for. -/
def letterEscapes : List (UInt8 × UInt8) :=
  [(34, 34), (92, 92), (47, 47), (98, 8), (102, 12), (110, 10), (114, 13), (116, 9)]

/-- A one-letter escape stands for its byte. -/
theorem escape_of_letter {k : Nat} {e x : UInt8} (letter : (e, x) ∈ letterEscapes)
    (here : b[k]? = some e) : escape b k = .ok (ByteArray.mk #[x], k + 1) := by
  rw [escape, here]
  simp only [letterEscapes, List.mem_cons, Prod.mk.injEq, List.not_mem_nil, or_false] at letter
  rcases letter with ⟨rfl, rfl⟩ | ⟨rfl, rfl⟩ | ⟨rfl, rfl⟩ | ⟨rfl, rfl⟩ |
    ⟨rfl, rfl⟩ | ⟨rfl, rfl⟩ | ⟨rfl, rfl⟩ | ⟨rfl, rfl⟩ <;> rfl

/-- A backslash and an escape letter are taken as the letter's byte. -/
theorem stringFrom_letter {e x : UInt8} (letter : (e, x) ∈ letterEscapes)
    (here : b.data.toList.drop i = 92 :: e :: rest) :
    stringFrom b true i acc = stringFrom b true (i + 2) (acc ++ ByteArray.mk #[x]) :=
  stringFrom_escape here (escape_of_letter letter (getElem?_of_drop (drop_succ_of_drop here)))
    (by omega)

/-- Four hexadecimal digits are read as the number they spell, most significant first. -/
theorem hexFour_digits {k : Nat} {d₀ d₁ d₂ d₃ : UInt8} {v₀ v₁ v₂ v₃ : Nat}
    (here : b.data.toList.drop k = d₀ :: d₁ :: d₂ :: d₃ :: rest)
    (h₀ : hexValue d₀ = some v₀) (h₁ : hexValue d₁ = some v₁)
    (h₂ : hexValue d₂ = some v₂) (h₃ : hexValue d₃ = some v₃) :
    hexFour b k = .ok (((v₀ * 16 + v₁) * 16 + v₂) * 16 + v₃, k + 4) := by
  have here₁ := drop_succ_of_drop here
  have here₂ := drop_succ_of_drop here₁
  have here₃ := drop_succ_of_drop here₂
  have room := size_of_drop here
  simp only [List.length_cons] at room
  rw [hexFour, if_neg (by omega)]
  simp [getElem?_of_drop here, getElem?_of_drop here₁, getElem?_of_drop here₂,
    getElem?_of_drop here₃, h₀, h₁, h₂, h₃]

/-- A `\u` escape below the surrogates stands for the UTF-8 bytes of its code point. -/
theorem unicodeEscape_of_lt {k j n : Nat} (digits : hexFour b k = .ok (n, j)) (low : n < 0xD800) :
    unicodeEscape b k = .ok (utf8 n, j) := by
  have notLow : ¬ (0xDC00 ≤ n ∧ n ≤ 0xDFFF) := by omega
  simp only [unicodeEscape, digits, bind, Except.bind]
  simp [notLow, low]
  rfl

/-- Each lowercase hexadecimal digit is one byte, read back as its value. -/
theorem hexDigit_bytes : ∀ k < 16,
    (String.utf8EncodeChar ("0123456789abcdef".toList.getD k '0')).map hexValue = [some k] := by
  decide

/-- The digit for a value below 16 is one byte whose value is that number. -/
theorem hexDigit_byte {k : Nat} (small : k < 16) :
    ∃ x, String.utf8EncodeChar ("0123456789abcdef".toList.getD k '0') = [x] ∧
      hexValue x = some k :=
  List.map_eq_singleton_iff.mp (hexDigit_bytes k small)

/-- A byte that is no control byte, quote or backslash as a number is one as a byte. -/
theorem ofNat_plain {v : Nat} (low : 32 ≤ v % 256) (quote : v % 256 ≠ 34)
    (backslash : v % 256 ≠ 92) :
    32 ≤ UInt8.ofNat v ∧ UInt8.ofNat v ≠ 34 ∧ UInt8.ofNat v ≠ 92 := by
  refine ⟨?_, ?_, ?_⟩ <;> simp [UInt8.le_iff_toNat_le, ← UInt8.toNat_inj] <;> omega

/-- The UTF-8 bytes of a character that is no control character, quote or backslash are none of
those either: a one-byte character is its own byte, and the bytes of a longer one are all at
least `0x80`. -/
theorem utf8EncodeChar_plain {c : Char} (low : 32 ≤ c.toNat) (quote : c ≠ '"')
    (backslash : c ≠ '\\') :
    ∀ x ∈ String.utf8EncodeChar c, 32 ≤ x ∧ x ≠ 34 ∧ x ≠ 92 := by
  have quoteCode : c.toNat ≠ 34 := fun h => quote (by rw [← Char.ofNat_toNat c, h])
  have backslashCode : c.toNat ≠ 92 := fun h => backslash (by rw [← Char.ofNat_toNat c, h])
  simp only [Char.toNat] at low quoteCode backslashCode
  intro x mem
  simp only [String.utf8EncodeChar] at mem
  split at mem
  · simp only [List.mem_singleton] at mem
    subst mem
    exact ofNat_plain (by omega) (by omega) (by omega)
  split at mem
  · simp only [List.mem_cons, List.not_mem_nil, or_false] at mem
    rcases mem with rfl | rfl <;> exact ofNat_plain (by omega) (by omega) (by omega)
  split at mem
  · simp only [List.mem_cons, List.not_mem_nil, or_false] at mem
    rcases mem with rfl | rfl | rfl <;> exact ofNat_plain (by omega) (by omega) (by omega)
  · simp only [List.mem_cons, List.not_mem_nil, or_false] at mem
    rcases mem with rfl | rfl | rfl | rfl <;> exact ofNat_plain (by omega) (by omega) (by omega)

/-- A run of plain bytes is taken as it is. -/
theorem stringFrom_plains (bs : List UInt8) (here : b.data.toList.drop i = bs ++ rest)
    (plain : ∀ x ∈ bs, 32 ≤ x ∧ x ≠ 34 ∧ x ≠ 92) :
    stringFrom b true i acc = stringFrom b true (i + bs.length) (acc ++ bs.toByteArray) := by
  induction bs generalizing i acc with
  | nil => simp [List.toByteArray_nil, ByteArray.append_empty]
  | cons x bs ih =>
    rw [stringFrom_plain here (plain x List.mem_cons_self),
      ih (drop_succ_of_drop here) fun y mem => plain y (List.mem_cons_of_mem x mem)]
    have bytes : (x :: bs).toByteArray = [x].toByteArray ++ bs.toByteArray :=
      @List.toByteArray_append [x] bs
    rw [bytes, ← ByteArray.append_assoc, ByteArray.append_toByteArray_singleton, List.length_cons,
      Nat.add_assoc, Nat.add_comm 1]

/-- The loop takes back a character from its escape: it moves past the escape and adds the
character's bytes. -/
theorem stringFrom_escapeChar (c : Char)
    (here : b.data.toList.drop i = bytesOf (escapeChar c) ++ rest) :
    stringFrom b true i acc =
      stringFrom b true (i + (bytesOf (escapeChar c)).length) (acc ++ [c].utf8Encode) := by
  by_cases quote : c = '"'
  · subst quote
    exact stringFrom_letter (e := 34) (x := 34) (by decide) here
  by_cases backslash : c = '\\'
  · subst backslash
    exact stringFrom_letter (e := 92) (x := 92) (by decide) here
  by_cases newline : c = '\n'
  · subst newline
    exact stringFrom_letter (e := 110) (x := 10) (by decide) here
  by_cases return_ : c = '\r'
  · subst return_
    exact stringFrom_letter (e := 114) (x := 13) (by decide) here
  by_cases tab : c = '\t'
  · subst tab
    exact stringFrom_letter (e := 116) (x := 9) (by decide) here
  have code := Char.ofNat_toNat c
  by_cases backspace : c.toNat = 8
  · rw [backspace] at code
    subst code
    exact stringFrom_letter (e := 98) (x := 8) (by decide) here
  by_cases formFeed : c.toNat = 12
  · rw [formFeed] at code
    subst code
    exact stringFrom_letter (e := 102) (x := 12) (by decide) here
  by_cases control : c.toNat < 32
  · -- `\u00XY`: the two hexadecimal digits read back as the code.
    obtain ⟨high, highBytes, highValue⟩ := hexDigit_byte (k := c.toNat / 16) (by omega)
    obtain ⟨low, lowBytes, lowValue⟩ := hexDigit_byte (k := c.toNat % 16) (by omega)
    have spelled : bytesOf (escapeChar c) = [92, 117, 48, 48, high, low] := by
      simp only [escapeChar, beq_iff_eq, quote, backslash, newline, return_, tab, backspace,
        formFeed, control, if_false, if_true]
      rw [bytesOf_append, bytesOf_append, bytesOf_singleton, bytesOf_singleton, highBytes, lowBytes]
      rfl
    rw [spelled] at here ⊢
    have zero : hexValue 48 = some 0 := rfl
    have digits := hexFour_digits (drop_succ_of_drop (drop_succ_of_drop here)) zero zero
      highValue lowValue
    have value : ((0 * 16 + 0) * 16 + c.toNat / 16) * 16 + c.toNat % 16 = c.toNat := by omega
    rw [value] at digits
    have unicode : escape b (i + 1) = .ok (utf8 c.toNat, i + 6) := by
      rw [escape, getElem?_of_drop (drop_succ_of_drop here)]
      exact unicodeEscape_of_lt digits (by omega)
    rw [stringFrom_escape here unicode (by omega)]
    simp [utf8, code, String.toByteArray_singleton]
  · rw [escapeChar_of_plain (by omega) quote backslash, bytesOf_singleton] at here ⊢
    rw [stringFrom_plains _ here (utf8EncodeChar_plain (by omega) quote backslash),
      List.utf8Encode_singleton]

/-- The loop takes back a whole escaped text up to its closing quote. -/
theorem stringFrom_escaped (cs : List Char)
    (here : b.data.toList.drop i = (cs.flatMap fun c => bytesOf (escapeChar c)) ++ 34 :: rest) :
    stringFrom b true i acc =
      .ok (acc ++ cs.utf8Encode, i + (cs.flatMap fun c => bytesOf (escapeChar c)).length + 1) := by
  induction cs generalizing i acc with
  | nil =>
    rw [stringFrom_close here]
    simp [List.utf8Encode_nil, ByteArray.append_empty]
  | cons c cs ih =>
    rw [List.flatMap_cons, List.append_assoc] at here
    rw [stringFrom_escapeChar c here, ih (by rw [← List.drop_drop, here, List.drop_left]),
      ByteArray.append_assoc, ← List.utf8Encode_cons, List.flatMap_cons, List.length_append]
    simp only [Nat.add_assoc]

/-- A text's UTF-8 bytes decode to the text. -/
theorem fromUTF8?_toByteArray (s : String) : String.fromUTF8? s.toByteArray = some s := by
  simp [String.fromUTF8?, s.isValidUTF8]
  rfl

end Strings

/-! ## Reading steps -/

/-- `x` reads the bytes `l` and gives `a`: started at any offset where `l` stands, followed by
`ahead` and then anything, it stops right after `l`. It may look at `ahead` but no further. -/
def Reads (x : Scan α) (l ahead : List UInt8) (a : α) : Prop :=
  ∀ (b : ByteArray) (i : Nat) (tail : List UInt8), b.data.toList.drop i = l ++ ahead ++ tail →
    (x.run b).run.run i = (.ok a, i + l.length)

section Steps

variable {x : Scan α} {f : α → Scan β} {l m ahead : List UInt8} {a : α} {r : β}

/-- A bound scan runs its second part from where its first part stopped. -/
theorem run_bind {b : ByteArray} {i j : Nat} (hx : (x.run b).run.run i = (.ok a, j)) :
    ((x >>= f).run b).run.run i = ((f a).run b).run.run j := by
  simp only [ReaderT.run_bind, ExceptT.run_bind, StateT.run_bind, hx]
  rfl

/-- A scan that succeeds is not caught. -/
theorem run_tryCatch {h : Failure → Scan α} {b : ByteArray} {i j : Nat}
    (hx : (x.run b).run.run i = (.ok a, j)) : ((tryCatch x h).run b).run.run i = (.ok a, j) := by
  simp only [ReaderT.run, ExceptT.run] at hx ⊢
  simp only [tryCatch, tryCatchThe, MonadExceptOf.tryCatch, ExceptT.tryCatch, ExceptT.mk,
    StateT.run_bind, hx]
  rfl

/-- Mapping a scan's value changes neither where it stops nor whether it succeeds. -/
theorem run_map (g : α → β) {b : ByteArray} {i j : Nat}
    (hx : (x.run b).run.run i = (.ok a, j)) :
    ((g <$> x).run b).run.run i = (.ok (g a), j) := by
  simp only [ReaderT.run, ExceptT.run] at hx ⊢
  simp only [Functor.map, ExceptT.map, ExceptT.mk, StateT.run_bind, hx]
  rfl

/-- What is known to follow may be longer. -/
theorem Reads.widen (reads : Reads x l ahead a) (more : List UInt8) :
    Reads x l (ahead ++ more) a := by
  intro b i tail here
  exact reads b i (more ++ tail) (by simpa using here)

/-- Reading `l` then, with its value, `m` reads `l ++ m`. -/
theorem Reads.bind (first : Reads x l (m ++ ahead) a) (next : Reads (f a) m ahead r) :
    Reads (x >>= f) (l ++ m) ahead r := by
  intro b i tail here
  have ran := first b i tail (by simpa using here)
  have rest := next b (i + l.length) tail (by rw [← List.drop_drop, here]; simp)
  rw [run_bind ran, List.length_append, ← Nat.add_assoc]
  exact rest

/-- A step that reads nothing more. -/
theorem Reads.bind_nil (first : Reads x l ahead a) (next : Reads (f a) [] ahead r) :
    Reads (x >>= f) l ahead r := by
  simpa using Reads.bind (m := []) first next

/-- A pure value reads nothing. -/
theorem Reads.of_pure (a : α) : Reads (pure a) [] ahead a :=
  fun _ _ _ _ => rfl

/-- Eating reads one byte. -/
theorem Reads.eat (c : UInt8) : Reads eat [c] ahead () :=
  fun _ _ _ _ => rfl

/-- A reading is not caught. -/
theorem Reads.tryCatch {h : Failure → Scan α} (reads : Reads x l ahead a) :
    Reads (tryCatch x h) l ahead a :=
  fun b i tail here => run_tryCatch (reads b i tail here)

/-- Settling failures changes no reading. -/
theorem Reads.settled (reads : Reads x l ahead a) : Reads (settled x) l ahead a :=
  Reads.tryCatch reads

/-- Mapping the value of a reading reads the same bytes. -/
theorem Reads.map (g : α → β) (reads : Reads x l ahead a) : Reads (g <$> x) l ahead (g a) :=
  fun b i tail here => run_map g (reads b i tail here)

/-- A step that reads the document itself reads it knowing the document holds at least the
bytes it reads and those after them. -/
theorem Reads.read_bind {g : ByteArray → Scan α}
    (next : ∀ document : ByteArray, (l ++ ahead).length ≤ document.size →
      Reads (g document) l ahead a) :
    Reads (read >>= g) l ahead a := by
  intro b i tail here
  have room : (l ++ ahead).length ≤ b.size := by
    have := length_le_of_drop here
    simp only [List.length_append] at this ⊢
    omega
  rw [run_bind (show ((read : Scan ByteArray).run b).run.run i = (.ok b, i) from rfl)]
  exact next b room b i tail here

/-- Peeking reads nothing and looks at the next byte. -/
theorem Reads.peek (c : UInt8) : Reads peek [] [c] (some c) := by
  intro b i tail here
  show (Except.ok b[i]?, i) = _
  rw [getElem?_of_drop here]
  rfl

/-- No blanks are skipped before a byte that is not blank. -/
theorem blankEnd_of_solid {b : ByteArray} {i : Nat} {c : UInt8} {rest : List UInt8}
    (here : b.data.toList.drop i = c :: rest) (solid : isBlank c = false) : blankEnd b i = i := by
  obtain ⟨h, hc⟩ := byte_of_drop here
  rw [blankEnd, dif_pos h, hc, solid]
  rfl

/-- Skipping blanks before a byte that is not blank reads nothing and finds that byte. -/
theorem Reads.skipBlank {c : UInt8} (solid : isBlank c = false) :
    Reads skipBlank [] [c] (some c) := by
  intro b i tail here
  show (Except.ok b[blankEnd b i]?, blankEnd b i) = _
  rw [blankEnd_of_solid here solid, getElem?_of_drop here]
  rfl

/-- Skipping blanks before a byte that is no blank moves nowhere and shows that byte. -/
theorem Reads.skipBlank_bind {g : Option UInt8 → Scan α} {c : UInt8} (solid : isBlank c = false)
    (next : Reads (g (some c)) (c :: l) ahead a) :
    Reads (JsonFormat.skipBlank >>= g) (c :: l) ahead a :=
  Reads.bind (l := []) (m := c :: l) ((Reads.skipBlank solid).widen (l ++ ahead)) next

/-- A body read, then its closing read, reads both. -/
theorem Reads.closing {body : Scan α} {finish : Scan Unit} (reads : Reads body l (m ++ ahead) a)
    (finished : Reads finish m ahead ()) : Reads (closing body finish) (l ++ m) ahead a := by
  refine Reads.bind (Reads.tryCatch (Reads.map Except.ok reads)) ?_
  exact Reads.bind_nil (Reads.tryCatch (Reads.map Except.ok finished)) (Reads.of_pure a)

/-- An identifier reads exactly its bytes. -/
theorem Reads.ident (l : List UInt8) : Reads (ident l) l [] () := by
  induction l with
  | nil => exact Reads.of_pure ()
  | cons c rest ih =>
    rw [JsonFormat.ident]
    refine Reads.bind (l := []) (m := c :: rest) ((Reads.peek c).widen (rest ++ [])) ?_
    refine Reads.bind (l := [c]) (Reads.eat c) ?_
    simpa using ih

/-- A string reads its escaped bytes and the closing quote, and gives the text back. -/
theorem Reads.string (s : String) : Reads (string true) (escapedBytes s ++ [34]) [] s := by
  intro b i tail here
  have taken : stringFrom b true i ByteArray.empty = _ :=
    stringFrom_escaped s.toList (by simpa [escapedBytes] using here)
  have value : (String.fromUTF8? (ByteArray.empty ++ s.toList.utf8Encode)).getD "" = s := by
    rw [ByteArray.empty_append, ← String.toByteArray_ofList, String.ofList_toList,
      fromUTF8?_toByteArray]
    rfl
  have document : ((read : Scan ByteArray).run b).run.run i = (.ok b, i) := rfl
  have offset : ((get : Scan Nat).run b).run.run i = (.ok i, i) := rfl
  rw [JsonFormat.string, run_bind document, run_bind offset, taken]
  show (Except.ok ((String.fromUTF8? (ByteArray.empty ++ s.toList.utf8Encode)).getD ""), _) = _
  rw [value, List.length_append, List.length_singleton, escapedBytes, Nat.add_assoc]

end Steps

/-! ## Lists and objects -/

section Containers

/-- Before the first item of a list, an item follows when no `]` comes. -/
theorem Reads.moreItems_first {c : UInt8} (solid : isBlank c = false) (open_ : c ≠ 93) :
    Reads (moreItems true) [] [c] true := by
  rw [moreItems]
  refine Reads.bind_nil (Reads.skipBlank solid) ?_
  split
  · simp_all
  · exact Reads.of_pure true
  · rw [if_pos rfl]
    dsimp only
    split
    · simp_all
    · exact Reads.of_pure true
    · simp_all
  · simp_all

/-- A list is over when `]` shows, before the first item or after any other. -/
theorem Reads.moreItems_close (first : Bool) : Reads (moreItems first) [] [93] false := by
  rw [moreItems]
  exact Reads.bind_nil (Reads.skipBlank (by decide)) (Reads.of_pure false)

/-- After an item, a comma announces the next item. -/
theorem Reads.moreItems_comma {c : UInt8} (solid : isBlank c = false) (open_ : c ≠ 93) :
    Reads (moreItems false) [44] [c] true := by
  rw [moreItems]
  refine Reads.bind (l := []) (m := [44]) ((Reads.skipBlank (by decide)).widen [c]) ?_
  refine Reads.bind (l := [44]) (m := []) (Reads.eat 44) ?_
  refine Reads.bind_nil (Reads.skipBlank solid) ?_
  dsimp only
  split
  · simp_all
  · exact Reads.of_pure true
  · simp_all

/-- The first key of an object is read as a quoted text. -/
theorem Reads.nextKey_first (key : String) :
    Reads (nextKey true) (34 :: escapedBytes key ++ [34]) [] (some key) := by
  rw [nextKey]
  refine Reads.skipBlank_bind (by decide) ?_
  refine Reads.bind (l := [34]) (Reads.eat 34) ?_
  exact Reads.bind_nil (Reads.string key) (Reads.of_pure _)

/-- A later key of an object follows a comma and is read as a quoted text. -/
theorem Reads.nextKey_more (key : String) :
    Reads (nextKey false) (44 :: 34 :: escapedBytes key ++ [34]) [] (some key) := by
  rw [nextKey]
  refine Reads.skipBlank_bind (by decide) ?_
  refine Reads.bind (l := [44]) (Reads.eat 44) ?_
  refine Reads.skipBlank_bind (by decide) ?_
  refine Reads.bind (l := [34]) (Reads.eat 34) ?_
  exact Reads.bind_nil (Reads.string key) (Reads.of_pure _)

/-- An object is over when `}` shows, before the first key or after any other entry. -/
theorem Reads.nextKey_close (first : Bool) : Reads (nextKey first) [] [125] none := by
  rw [nextKey]
  exact Reads.bind_nil (Reads.skipBlank (by decide)) (Reads.of_pure none)

/-- A colon after a key is read. -/
theorem Reads.colon : Reads colon [58] [] () := by
  rw [JsonFormat.colon]
  exact Reads.skipBlank_bind (by decide) (Reads.eat 58)

/-- A closing bracket ends a list. -/
theorem Reads.endList : Reads endList [93] [] () := by
  rw [JsonFormat.endList]
  exact Reads.skipBlank_bind (by decide) (Reads.eat 93)

/-- A closing brace ends an object. -/
theorem Reads.endObject : Reads endObject [125] [] () := by
  rw [JsonFormat.endObject]
  exact Reads.skipBlank_bind (by decide) (Reads.eat 125)

section Items

variable {elem : Scan Datum} (enc : Datum → List UInt8)

/-- One item: what comes before it (nothing first, a comma later), the item, and the items
that follow. -/
theorem Reads.listItems_step {first : Bool} {fuel : Nat} {acc : List Datum} {x : Datum}
    {c : UInt8} {before cs rest ahead : List UInt8} {r : List Datum}
    (more : Reads (moreItems first) before [c] true) (item : Reads elem (c :: cs) [] x)
    (later : Reads (listItems elem fuel false (acc ++ [x])) rest ahead r) :
    Reads (listItems elem (fuel + 1) first acc) (before ++ (c :: cs ++ rest)) ahead r := by
  rw [listItems]
  refine Reads.bind (more.widen _) ?_
  exact Reads.bind (l := c :: cs) (item.widen _) later

/-- The items after the first: each a comma and the item, until `]` shows. The fuel is one
more than the items at least. -/
theorem Reads.listItems_more (xs : List Datum) (items : ∀ x ∈ xs, Reads elem (enc x) [] x)
    (opens : ∀ x ∈ xs, ∃ c rest, enc x = c :: rest ∧ isBlank c = false ∧ c ≠ 93)
    (fuel : Nat) (roomy : xs.length < fuel) (acc : List Datum) :
    Reads (listItems elem fuel false acc) (xs.flatMap fun x => 44 :: enc x) [93] (acc ++ xs) := by
  induction xs generalizing fuel acc with
  | nil =>
    obtain ⟨fuel, rfl⟩ : ∃ n, fuel = n + 1 := ⟨fuel - 1, by omega⟩
    rw [listItems, List.append_nil]
    exact Reads.bind_nil (Reads.moreItems_close false) (Reads.of_pure acc)
  | cons x xs ih =>
    obtain ⟨fuel, rfl⟩ : ∃ n, fuel = n + 1 := ⟨fuel - 1, by omega⟩
    obtain ⟨c, rest, spelled, solid, open_⟩ := opens x List.mem_cons_self
    have first := items x List.mem_cons_self
    rw [spelled] at first
    have later := ih (fun y mem => items y (List.mem_cons_of_mem x mem))
      (fun y mem => opens y (List.mem_cons_of_mem x mem)) fuel (by simp at roomy; omega)
      (acc ++ [x])
    rw [List.flatMap_cons, spelled]
    simpa using Reads.listItems_step (Reads.moreItems_comma solid open_) first later

/-- A list's items, read from right after its opening bracket until `]` shows. -/
theorem Reads.listItems_first (xs : List Datum) (items : ∀ x ∈ xs, Reads elem (enc x) [] x)
    (opens : ∀ x ∈ xs, ∃ c rest, enc x = c :: rest ∧ isBlank c = false ∧ c ≠ 93)
    (fuel : Nat) (roomy : xs.length < fuel) :
    Reads (listItems elem fuel true []) (commaSeparated (xs.map enc)) [93] xs := by
  obtain ⟨fuel, rfl⟩ : ∃ n, fuel = n + 1 := ⟨fuel - 1, by omega⟩
  cases xs with
  | nil =>
    rw [listItems]
    exact Reads.bind_nil (Reads.moreItems_close true) (Reads.of_pure [])
  | cons x xs =>
    obtain ⟨c, rest, spelled, solid, open_⟩ := opens x List.mem_cons_self
    have first := items x List.mem_cons_self
    rw [spelled] at first
    have later := Reads.listItems_more enc xs (fun y mem => items y (List.mem_cons_of_mem x mem))
      (fun y mem => opens y (List.mem_cons_of_mem x mem)) fuel (by simp at roomy; omega) [x]
    rw [List.map_cons, commaSeparated, spelled]
    simpa [List.flatMap_map] using
      Reads.listItems_step (Reads.moreItems_first solid open_) first later

end Items

section Entries

variable {readField : Shape → Scan Datum} {fields : List (String × Shape)}
  (enc : Datum → List UInt8)

/-- An object's entry as it is written: the key quoted, a colon, the value's bytes. -/
def entryBytes (key : String) (value : List UInt8) : List UInt8 :=
  34 :: escapedBytes key ++ 34 :: 58 :: value

/-- An entry is its quoted key, a colon and its value. -/
theorem entryBytes_append (key : String) (value rest : List UInt8) :
    entryBytes key value ++ rest = (34 :: escapedBytes key ++ [34]) ++ (58 :: value ++ rest) := by
  simp [entryBytes]

/-- A later entry is a comma, its quoted key, a colon and its value. -/
theorem entryBytes_after_comma (key : String) (value rest : List UInt8) :
    44 :: entryBytes key value ++ rest =
      (44 :: 34 :: escapedBytes key ++ [34]) ++ (58 :: value ++ rest) := by
  simp [entryBytes]

/-- One entry: its key (after a comma but for the first), declared by the record and not
met before, a colon, the value, and the entries that follow. -/
theorem Reads.recordEntries_step {first : Bool} {fuel : Nat} {acc : List (String × Datum)}
    {e : String × Datum} {shape : Shape} {key rest ahead : List UInt8}
    {r : List (String × Datum)} (named : Reads (nextKey first) key [] (some e.1))
    (declared : fields.lookup e.1 = some shape) (unseen : acc.lookup e.1 = none)
    (value : Reads (readField shape) (enc e.2) [] e.2)
    (later : Reads (recordEntries readField fields fuel false (acc ++ [e])) rest ahead r) :
    Reads (recordEntries readField fields (fuel + 1) first acc)
      (key ++ (58 :: enc e.2 ++ rest)) ahead r := by
  rw [recordEntries]
  refine Reads.bind (named.widen _) ?_
  dsimp only
  rw [declared, unseen]
  refine Reads.bind (l := [58]) (Reads.colon.widen _) ?_
  exact Reads.bind (l := enc e.2) (value.widen _) later

/-- The entries after the first: each a comma, a key the record declares and not met before,
a colon and the value, until `}` shows. -/
theorem Reads.recordEntries_more (es : List (String × Datum))
    (values : ∀ e ∈ es, ∃ shape, fields.lookup e.1 = some shape ∧
      Reads (readField shape) (enc e.2) [] e.2)
    (acc : List (String × Datum)) (fresh : (acc.map Prod.fst ++ es.map Prod.fst).Nodup)
    (fuel : Nat) (roomy : es.length < fuel) :
    Reads (recordEntries readField fields fuel false acc)
      (es.flatMap fun e => 44 :: entryBytes e.1 (enc e.2)) [125] (acc ++ es) := by
  induction es generalizing fuel acc with
  | nil =>
    obtain ⟨fuel, rfl⟩ : ∃ n, fuel = n + 1 := ⟨fuel - 1, by omega⟩
    rw [recordEntries, List.append_nil]
    exact Reads.bind_nil (Reads.nextKey_close false) (Reads.of_pure acc)
  | cons e es ih =>
    obtain ⟨fuel, rfl⟩ : ∃ n, fuel = n + 1 := ⟨fuel - 1, by omega⟩
    obtain ⟨shape, declared, value⟩ := values e List.mem_cons_self
    have absent : e.1 ∉ acc.map Prod.fst := fun member =>
      (List.nodup_append.mp fresh).2.2 e.1 member e.1 (by simp) rfl
    have unseen : acc.lookup e.1 = none := by
      rw [List.lookup_eq_none_iff]
      intro p member
      have apart : e.1 ≠ p.1 := fun same => absent (same ▸ List.mem_map_of_mem member)
      simpa using apart
    have later := ih (fun d member => values d (List.mem_cons_of_mem e member)) (acc ++ [e])
      (by simpa using fresh) fuel (by simp at roomy; omega)
    rw [List.flatMap_cons, entryBytes_after_comma]
    simpa using Reads.recordEntries_step enc (Reads.nextKey_more e.1) declared unseen value later

/-- An object's entries, read from right after its opening brace until `}` shows, when no
key repeats. -/
theorem Reads.recordEntries_first (es : List (String × Datum))
    (values : ∀ e ∈ es, ∃ shape, fields.lookup e.1 = some shape ∧
      Reads (readField shape) (enc e.2) [] e.2)
    (distinct : (es.map Prod.fst).Nodup) (fuel : Nat) (roomy : es.length < fuel) :
    Reads (recordEntries readField fields fuel true [])
      (commaSeparated (es.map fun e => entryBytes e.1 (enc e.2))) [125] es := by
  obtain ⟨fuel, rfl⟩ : ∃ n, fuel = n + 1 := ⟨fuel - 1, by omega⟩
  cases es with
  | nil =>
    rw [recordEntries]
    exact Reads.bind_nil (Reads.nextKey_close true) (Reads.of_pure [])
  | cons e es =>
    obtain ⟨shape, declared, value⟩ := values e List.mem_cons_self
    have later := Reads.recordEntries_more enc es
      (fun d member => values d (List.mem_cons_of_mem e member)) [e] (by simpa using distinct) fuel
      (by simp at roomy; omega)
    rw [List.map_cons, commaSeparated, entryBytes_append]
    simpa [List.flatMap_map] using
      Reads.recordEntries_step enc (Reads.nextKey_first e.1) declared rfl value later

/-- With distinct keys, looking up an entry's key finds its value. -/
theorem lookup_eq_of_mem {es : List (String × Datum)} (distinct : (es.map Prod.fst).Nodup)
    {e : String × Datum} (member : e ∈ es) : es.lookup e.1 = some e.2 := by
  induction es with
  | nil => cases member
  | cons d ds ih =>
    obtain ⟨k, v⟩ := d
    rcases List.mem_cons.mp member with rfl | later
    · simp
    · have fresh : k ∉ ds.map Prod.fst := (List.nodup_cons.mp distinct).1
      have apart : e.1 ≠ k := fun same => fresh (same ▸ List.mem_map_of_mem later)
      rw [List.lookup_cons, beq_false_of_ne apart]
      exact ih (List.nodup_cons.mp distinct).2 later

/-- Entries found for exactly the declared fields, in their order, complete the record as they
are. -/
theorem complete_of_keys (fields : List (String × Shape)) (lenient : Bool)
    (es : List (String × Datum))
    (keys : es.map Prod.fst = fields.map Prod.fst) (distinct : (es.map Prod.fst).Nodup) :
    Shape.complete fields lenient es = .ok es := by
  have found : ∀ d ∈ es, es.lookup d.1 = some d.2 := fun d member =>
    lookup_eq_of_mem distinct member
  suffices ∀ (fs : List (String × Shape)) (ds : List (String × Datum)),
      ds.map Prod.fst = fs.map Prod.fst → (∀ d ∈ ds, es.lookup d.1 = some d.2) →
        Shape.complete fs lenient es = .ok ds from this fields es keys found
  intro fs
  induction fs with
  | nil =>
    intro ds keys _
    cases ds with
    | nil => rfl
    | cons => simp at keys
  | cons f fs ih =>
    intro ds keys found
    cases ds with
    | nil => simp at keys
    | cons d ds =>
      obtain ⟨n, s⟩ := f
      obtain ⟨k, v⟩ := d
      simp only [List.map_cons, List.cons.injEq] at keys
      obtain ⟨rfl, keys⟩ := keys
      have head : es.lookup k = some v := found (k, v) List.mem_cons_self
      have tail := ih ds keys fun d member => found d (List.mem_cons_of_mem _ member)
      simp only [Shape.complete] at tail ⊢
      simp [List.mapM_cons, head, tail]
      rfl

end Entries

/-- Each run adds at least one byte. -/
theorem length_le_commaSeparated (runs : List (List UInt8))
    (nonempty : ∀ run ∈ runs, run ≠ []) :
    runs.length ≤ (commaSeparated runs).length := by
  have commas : ∀ rest : List (List UInt8), rest.length ≤ (rest.flatMap (44 :: ·)).length := by
    intro rest
    induction rest with
    | nil => simp
    | cons run rest ih =>
      simp only [List.flatMap_cons, List.length_append, List.length_cons]
      omega
  cases runs with
  | nil => simp
  | cons first rest =>
    have : first.length ≥ 1 := List.length_pos_iff.mpr (nonempty first List.mem_cons_self)
    have := commas rest
    simp only [commaSeparated, List.length_append, List.length_cons]
    omega

/-- Fuel of one more than the document's size outlasts the items of a bracketed run the
document holds. -/
theorem length_lt_of_bracketed {runs : List (List UInt8)} (nonempty : ∀ run ∈ runs, run ≠ [])
    {opening closing : UInt8} {size : Nat}
    (room : (opening :: commaSeparated runs ++ [closing] ++ []).length ≤ size) :
    runs.length < size + 1 := by
  have := length_le_commaSeparated runs nonempty
  simp only [List.length_append, List.length_cons, List.length_nil] at room
  omega

end Containers

/-! ## Values -/

/-- The compact JSON bytes of a datum: text and choices quoted, truth values and nothing as
literals, lists and records with commas and no blanks. -/
def datumBytes : Datum → List UInt8
  | .text s => 34 :: escapedBytes s ++ [34]
  | .flag b => bytesOf (toString b)
  | .nothing => bytesOf "null"
  | .just d => datumBytes d
  | .list items => 91 :: commaSeparated (items.map datumBytes) ++ [93]
  | .record fields =>
    123 :: commaSeparated (fields.map fun e => entryBytes e.1 (datumBytes e.2)) ++ [125]
  | .choice n => 34 :: escapedBytes n ++ [34]
termination_by d => sizeOf d
decreasing_by
  · simp only [Datum.just.sizeOf_spec]
    omega
  · have := List.sizeOf_lt_of_mem ‹_›
    simp only [Datum.list.sizeOf_spec]
    omega
  · rename_i member
    have := List.sizeOf_lt_of_mem member
    obtain ⟨k, v⟩ := e
    simp only [Datum.record.sizeOf_spec, Prod.mk.sizeOf_spec] at *
    omega

/-- Text is read back from its quoted bytes. -/
theorem Reads.readShape_text (depth : Nat) (s : String) :
    Reads (readShape (depth + 1) .text) (datumBytes (.text s)) [] (.text s) := by
  rw [readShape, datumBytes]
  refine Reads.read_bind fun _ _ => Reads.settled (Reads.skipBlank_bind (by decide) ?_)
  exact Reads.bind (l := [34]) (Reads.eat 34) (Reads.bind_nil (Reads.string s) (Reads.of_pure _))

/-- A truth value is read back from `true` or `false`. -/
theorem Reads.readShape_flag (depth : Nat) (v : Bool) :
    Reads (readShape (depth + 1) .flag) (datumBytes (.flag v)) [] (.flag v) := by
  rw [readShape, datumBytes]
  refine Reads.read_bind fun _ _ => Reads.settled ?_
  cases v
  · refine Reads.skipBlank_bind (c := 102) (by decide) ?_
    exact Reads.bind (l := [102]) (Reads.eat 102) (Reads.bind_nil (Reads.ident _) (Reads.of_pure _))
  · refine Reads.skipBlank_bind (c := 116) (by decide) ?_
    exact Reads.bind (l := [116]) (Reads.eat 116) (Reads.bind_nil (Reads.ident _) (Reads.of_pure _))

/-- A choice among names is read back from the quoted name. -/
theorem Reads.choiceName {names : List String} {n : String} (member : names.contains n = true)
    (expected : String) :
    Reads (choiceName names expected) (34 :: escapedBytes n ++ [34]) [] n := by
  rw [JsonFormat.choiceName]
  refine Reads.settled (Reads.skipBlank_bind (by decide) ?_)
  refine Reads.bind (l := [34]) (Reads.eat 34) (Reads.bind_nil (Reads.string n) ?_)
  rw [if_pos member]
  exact Reads.of_pure n

/-- A choice is read back from its quoted name when the name is among the shape's. -/
theorem Reads.readShape_choice (depth : Nat) (name : String) {names : List String} {n : String}
    (member : names.contains n = true) :
    Reads (readShape (depth + 1) (.choice name names)) (datumBytes (.choice n)) [] (.choice n) := by
  rw [readShape, datumBytes]
  refine Reads.read_bind fun _ _ => Reads.skipBlank_bind (by decide) ?_
  exact Reads.bind_nil (Reads.choiceName member _) (Reads.of_pure _)

/-- Entries whose keys are the declared fields in order complete the record as they are. -/
theorem Reads.completeRecord {fields : List (String × Shape)} {lenient : Bool}
    {es : List (String × Datum)} {ahead : List UInt8}
    (keys : es.map Prod.fst = fields.map Prod.fst)
    (distinct : (es.map Prod.fst).Nodup) :
    Reads (completeRecord fields lenient es) [] ahead (.record es) := by
  rw [JsonFormat.completeRecord, complete_of_keys fields lenient es keys distinct]
  exact Reads.of_pure _

/-- A record whose entries are the declared fields, each read back at its shape, is read back
from its bytes. -/
theorem Reads.readShape_record (depth : Nat) (name : String) (fields : List (String × Shape))
    (lenient : Bool) (es : List (String × Datum)) (keys : es.map Prod.fst = fields.map Prod.fst)
    (distinct : (es.map Prod.fst).Nodup)
    (values : ∀ e ∈ es, ∃ shape, fields.lookup e.1 = some shape ∧
      Reads (readShape depth shape) (datumBytes e.2) [] e.2) :
    Reads (readShape (depth + 1) (.record name fields lenient)) (datumBytes (.record es)) []
      (.record es) := by
  rw [readShape, datumBytes]
  refine Reads.read_bind fun document room => ?_
  -- The document holds every entry's bytes, so the fuel outlasts the entries.
  have entries : ∀ run ∈ es.map fun e => entryBytes e.1 (datumBytes e.2), run ≠ [] := by
    intro run member
    obtain ⟨e, -, rfl⟩ := List.mem_map.mp member
    simp [entryBytes]
  have roomy := length_lt_of_bracketed entries room
  rw [List.length_map] at roomy
  refine Reads.settled (Reads.skipBlank_bind (by decide) ?_)
  refine Reads.bind (l := [123]) (Reads.eat 123) ?_
  refine Reads.closing ?_ Reads.endObject
  exact Reads.bind_nil (Reads.recordEntries_first datumBytes es values distinct _ roomy)
    (Reads.completeRecord keys distinct)

/-- A list whose items are each read back at the item shape is read back from its bytes. -/
theorem Reads.readShape_list (depth : Nat) (item : Shape) (xs : List Datum)
    (items : ∀ x ∈ xs, Reads (readShape depth item) (datumBytes x) [] x)
    (opens : ∀ x ∈ xs, ∃ c rest, datumBytes x = c :: rest ∧ isBlank c = false ∧
      c ≠ 93) :
    Reads (readShape (depth + 1) (.list item)) (datumBytes (.list xs)) [] (.list xs) := by
  rw [readShape, datumBytes]
  refine Reads.read_bind fun document room => ?_
  have written : ∀ run ∈ xs.map datumBytes, run ≠ [] := by
    intro run member
    obtain ⟨x, listed, rfl⟩ := List.mem_map.mp member
    obtain ⟨c, rest, spelled, -⟩ := opens x listed
    simp [spelled]
  have roomy := length_lt_of_bracketed written room
  rw [List.length_map] at roomy
  refine Reads.settled (Reads.skipBlank_bind (by decide) ?_)
  refine Reads.bind (l := [91]) (Reads.eat 91) ?_
  refine Reads.closing ?_ Reads.endList
  exact Reads.bind_nil (Reads.listItems_first datumBytes xs items opens _ roomy) (Reads.of_pure _)

/-- A datum the reader takes back from its bytes at a shape, within `depth` levels of nesting:
text, a truth value, a choice among the shape's names, a list of fitting items, or a record
whose entries are the declared fields in order, each fitting its field's shape. -/
inductive Fits : Nat → Shape → Datum → Prop where
  | text (depth : Nat) (s : String) : Fits (depth + 1) .text (.text s)
  | flag (depth : Nat) (b : Bool) : Fits (depth + 1) .flag (.flag b)
  | choice (depth : Nat) (name : String) {names : List String} {n : String}
      (member : names.contains n = true) : Fits (depth + 1) (.choice name names) (.choice n)
  | list (depth : Nat) {item : Shape} {xs : List Datum} (items : ∀ x ∈ xs, Fits depth item x) :
      Fits (depth + 1) (.list item) (.list xs)
  | record (depth : Nat) (name : String) {fields : List (String × Shape)} (lenient : Bool)
      {es : List (String × Datum)} (keys : es.map Prod.fst = fields.map Prod.fst)
      (distinct : (es.map Prod.fst).Nodup)
      (values : ∀ e ∈ es, ∀ shape, fields.lookup e.1 = some shape → Fits depth shape e.2) :
      Fits (depth + 1) (.record name fields lenient) (.record es)

/-- What a fitting datum is written as starts with a byte that opens a value. -/
theorem Fits.opens {depth : Nat} {shape : Shape} {v : Datum} (fits : Fits depth shape v) :
    ∃ c rest, datumBytes v = c :: rest ∧ isBlank c = false ∧ c ≠ 93 := by
  cases fits with
  | text => exact ⟨34, _, by rw [datumBytes]; rfl, by decide, by decide⟩
  | flag _ b =>
    cases b
    · exact ⟨102, _, by rw [datumBytes]; rfl, by decide, by decide⟩
    · exact ⟨116, _, by rw [datumBytes]; rfl, by decide, by decide⟩
  | choice => exact ⟨34, _, by rw [datumBytes]; rfl, by decide, by decide⟩
  | list => exact ⟨91, _, by rw [datumBytes]; rfl, by decide, by decide⟩
  | record => exact ⟨123, _, by rw [datumBytes]; rfl, by decide, by decide⟩

/-- The reader takes back every fitting datum from its bytes. -/
theorem Fits.reads {depth : Nat} {shape : Shape} {v : Datum} (fits : Fits depth shape v) :
    Reads (readShape depth shape) (datumBytes v) [] v := by
  induction fits with
  | text depth s => exact Reads.readShape_text depth s
  | flag depth b => exact Reads.readShape_flag depth b
  | choice depth name member => exact Reads.readShape_choice depth name member
  | list depth items ih =>
    exact Reads.readShape_list depth _ _ ih fun x member => (items x member).opens
  | @record depth name fields lenient es keys distinct values ih =>
    refine Reads.readShape_record depth name fields lenient es keys distinct fun e member => ?_
    have declared : (fields.lookup e.1).isSome := by
      have named : e.1 ∈ fields.map Prod.fst := keys ▸ List.mem_map_of_mem member
      obtain ⟨field, inFields, same⟩ := List.mem_map.mp named
      exact List.lookup_isSome_iff.mpr ⟨field, inFields, by simp [same]⟩
    obtain ⟨shape, found⟩ := Option.isSome_iff_exists.mp declared
    exact ⟨shape, found, ih e member shape found⟩

/-- At the end of the document nothing is left after the blanks. -/
theorem run_skipBlank_end {b : ByteArray} :
    ((skipBlank.run b).run.run b.size) = (.ok none, b.size) := by
  show (Except.ok b[blankEnd b b.size]?, blankEnd b b.size) = _
  have ended : blankEnd b b.size = b.size := by
    rw [blankEnd, dif_neg (Nat.lt_irrefl _)]
  rw [ended, getElem?_neg b b.size (Nat.lt_irrefl _)]

/-- A document that holds exactly the bytes of a datum fitting the shape is read as that datum. -/
theorem parse_eq_of_fits {shape : Shape} {d : Datum} (fits : Fits 128 shape d) {text : String}
    (written : bytesOf text = datumBytes d) : parse shape text = .ok d := by
  have whole : text.toUTF8.data.toList.drop 0 = datumBytes d ++ [] ++ [] := by
    simpa [bytesOf] using written
  have size : 0 + (datumBytes d).length = text.toUTF8.size := by
    rw [← written, bytesOf]
    simp
  have ran := fits.reads text.toUTF8 0 [] whole
  rw [size] at ran
  simp only [parse, readDocument]
  rw [run_bind ran, run_bind run_skipBlank_end]
  rfl

end JsonFormat

end ChatBot
