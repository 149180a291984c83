import ChatBot.Proofs.Resolution

/-!
# Greedy descent below a command

Below a node, the words of a text name children one level at a time: the first word enters
the first child, in declared order, whose name or an alias it matches up to lowercasing,
the second word one of that child's children, and so on, until the words run out or a word
names no child of the node reached (`Command.descent`). `findChild` walks that far. When the
first word already names no child, it enters nothing and hands the text back unchanged, not
even trimmed. Otherwise it returns the last node entered, with the text after the walked
words, trimmed (`Text.dropWords`): that text holds exactly the words not walked, is empty
exactly when every word was walked, and otherwise starts with a word that names no child of
the node reached. `resolve` answers the same node and text, or the node itself and the whole
text trimmed when nothing was entered.

The main statement is `findChild_greedy`; `findChild_eq` gives `findChild` in closed form.
-/

namespace ChatBot

open Text

namespace Text

/-- The text after the first `k` words: each word is removed with the blanks before it. -/
def dropWords : Nat → List Char → List Char
  | 0, cs => cs
  | k + 1, cs => dropWords k ((cs.dropWhile isBlank).dropWhile fun c => !isBlank c)

/-- Dropping no words leaves the text. -/
@[simp] theorem dropWords_zero (cs : List Char) : dropWords 0 cs = cs := rfl

/-- Dropping one more word drops the leading blanks and a word first. -/
theorem dropWords_succ (k : Nat) (cs : List Char) :
    dropWords (k + 1) cs = dropWords k ((cs.dropWhile isBlank).dropWhile fun c => !isBlank c) :=
  rfl

/-- Dropping one word drops the leading blanks and the word after them. -/
theorem dropWords_one (cs : List Char) :
    dropWords 1 cs = (cs.dropWhile isBlank).dropWhile fun c => !isBlank c :=
  rfl

/-- Nothing is left of an empty text. -/
@[simp] theorem dropWords_nil (k : Nat) : dropWords k [] = [] := by
  induction k with
  | zero => rfl
  | succ k ih => exact ih

/-- A text that starts with a word has words. -/
theorem wordsFrom_ne_nil {word : List Char} (started : word ≠ []) (cs : List Char) :
    wordsFrom word cs ≠ [] := by
  induction cs generalizing word with
  | nil => simp [wordsFrom, started]
  | cons c rest ih =>
    by_cases blank : isBlank c = true
    · simp [wordsFrom, blank, started]
    · simpa [wordsFrom, blank] using ih (List.cons_ne_nil c word)

/-- A text is trimmed to nothing exactly when it has no words. -/
theorem trimChars_eq_nil_iff (cs : List Char) : trimChars cs = [] ↔ wordsOf cs = [] := by
  constructor
  · intro empty
    rw [← wordsOf_trimChars, empty]
    rfl
  · intro noWords
    cases trimmed : trimChars cs with
    | nil => rfl
    | cons c rest =>
      have solid : isBlank c = false := (trimChars_trimmed cs).1 c (by rw [trimmed]; rfl)
      have found := wordsFrom_ne_nil (List.cons_ne_nil c []) rest
      rw [← wordsOf_trimChars, trimmed, wordsOf, wordsFrom, solid] at noWords
      exact absurd noWords found

/-- A text trims to nothing exactly when it has no words. -/
theorem trim_eq_empty_iff (s : String) : trim s = "" ↔ words s = [] := by
  rw [trim, ← String.toList_inj, String.toList_ofList, String.toList_empty, trimChars_eq_nil_iff]
  simp [words]

/-- The text after a word's letters is the text after its first blank. -/
theorem dropWhile_word {word after : List Char} (solid : ∀ c ∈ word, isBlank c = false)
    (ends : ∀ c ∈ after.head?, isBlank c = true) :
    (word ++ after).dropWhile (fun c => !isBlank c) = after := by
  have gone : (word.dropWhile fun c => !isBlank c).isEmpty = true := by
    rw [List.isEmpty_iff, List.dropWhile_eq_nil_iff]
    intro c mem
    simp [solid c mem]
  rw [List.dropWhile_append, if_pos gone]
  cases after with
  | nil => rfl
  | cons b tail => simp [ends b rfl]

/-- One step drops one word: the words of what is left are the words after the first. -/
theorem wordsOf_dropWord (cs : List Char) :
    wordsOf ((cs.dropWhile isBlank).dropWhile fun c => !isBlank c) = (wordsOf cs).tail := by
  rw [← wordsOf_dropWhile cs]
  obtain ⟨word, after, spelled, solid, ends⟩ := breakAtBlank_spec (cs.dropWhile isBlank)
  have blankAfter : ∀ c ∈ after.head?, isBlank c = true := by
    rcases ends with ⟨rfl, -⟩ | ⟨b, tail, blank, rfl, -⟩
    · intro c none_
      cases none_
    · intro c head
      cases head
      exact blank
  rw [spelled, dropWhile_word solid blankAfter]
  cases word with
  | nil =>
    cases after with
    | nil => rfl
    | cons b tail =>
      have solidHead := dropWhile_head cs b (by rw [spelled]; rfl)
      rw [blankAfter b rfl] at solidHead
      cases solidHead
  | cons w ws =>
    have alone : wordsFrom [] (w :: ws) = [w :: ws] := by
      simpa using wordsFrom_of_blankFree [] (w :: ws) solid (by simp)
    rcases ends with ⟨rfl, -⟩ | ⟨b, tail, blank, rfl, -⟩
    · rw [List.append_nil, wordsOf, wordsOf, alone]
      rfl
    · have whole : wordsOf (w :: ws ++ b :: tail) = (w :: ws) :: wordsOf tail := by
        rw [wordsOf, wordsFrom_append_blank [] _ tail blank, alone]
        rfl
      rw [whole]
      simp [wordsOf, wordsFrom, blank]

/-- The words after the first `k` are those of the text after them. -/
theorem wordsOf_dropWords (k : Nat) (cs : List Char) :
    wordsOf (dropWords k cs) = (wordsOf cs).drop k := by
  induction k generalizing cs with
  | zero => rfl
  | succ k ih => rw [dropWords_succ, ih, wordsOf_dropWord, List.drop_tail, Nat.add_comm]

/-- Blanks at the end of a text stay at the end after words are dropped. -/
theorem dropWords_append_blanks (k : Nat) (cs bs : List Char)
    (blanks : ∀ c ∈ bs, isBlank c = true) :
    ∃ bs', (∀ c ∈ bs', isBlank c = true) ∧
      dropWords k (cs ++ bs) = dropWords k cs ++ bs' := by
  induction k generalizing cs bs with
  | zero => exact ⟨bs, blanks, rfl⟩
  | succ k ih =>
    have allBlank : bs.dropWhile isBlank = [] := List.dropWhile_eq_nil_iff.mpr blanks
    have solidStop : bs.dropWhile (fun c => !isBlank c) = bs := by
      cases bs with
      | nil => rfl
      | cons b tail => simp [blanks b List.mem_cons_self]
    rw [dropWords_succ, dropWords_succ, List.dropWhile_append]
    by_cases gone : (cs.dropWhile isBlank).isEmpty = true
    · -- The text is all blanks: nothing is left on either side.
      rw [if_pos gone, allBlank, List.isEmpty_iff.mp gone]
      exact ⟨[], by simp, by simp⟩
    · rw [if_neg gone, List.dropWhile_append]
      by_cases through : ((cs.dropWhile isBlank).dropWhile fun c => !isBlank c).isEmpty = true
      · rw [if_pos through, solidStop, List.isEmpty_iff.mp through]
        obtain ⟨bs', blank', dropped⟩ := ih [] bs blanks
        exact ⟨bs', blank', by simpa using dropped⟩
      · rw [if_neg through]
        exact ih _ bs blanks

/-- Trailing blanks make no difference to trimming. -/
theorem trimChars_append_blanks (cs bs : List Char) (blanks : ∀ c ∈ bs, isBlank c = true) :
    trimChars (cs ++ bs) = trimChars cs := by
  have allBlank : bs.dropWhile isBlank = [] := List.dropWhile_eq_nil_iff.mpr blanks
  rw [trimChars, trimChars, List.dropWhile_append]
  by_cases gone : (cs.dropWhile isBlank).isEmpty = true
  · rw [if_pos gone, allBlank, List.isEmpty_iff.mp gone]
  · rw [if_neg gone, List.reverse_append, List.dropWhile_append,
      if_pos (by simpa [List.dropWhile_eq_nil_iff] using blanks)]

/-- Dropping words from a trimmed text and trimming gives what dropping them from the text
does: the blanks trimmed at the front go with the first word, those at the end stay at the
end. -/
theorem trimChars_dropWords_trimChars (k : Nat) (cs : List Char) :
    trimChars (dropWords k (trimChars cs)) = trimChars (dropWords k cs) := by
  have front : trimChars (dropWords k (cs.dropWhile isBlank)) = trimChars (dropWords k cs) := by
    cases k with
    | zero => exact trimChars_dropWhile cs
    | succ k =>
      rw [dropWords_succ, dropWords_succ, dropWhile_blank_idem]
  obtain ⟨bs, blanks, dropped⟩ := dropWords_append_blanks k (trimChars cs)
    (((cs.dropWhile isBlank).reverse.takeWhile isBlank).reverse)
    (fun c mem => List.mem_takeWhile_imp (List.mem_reverse.mp mem))
  rw [← front, dropWhile_eq_trimChars_append, dropped, trimChars_append_blanks _ _ blanks]

/-- Dropping the first word of leading blanks, a word and a text that is empty or starts
with a blank leaves that text. -/
theorem dropWords_one_of_split {lead word after : List Char}
    (leading : ∀ c ∈ lead, isBlank c = true) (started : word ≠ [])
    (solid : ∀ c ∈ word, isBlank c = false) (ends : ∀ c ∈ after.head?, isBlank c = true) :
    dropWords 1 (lead ++ word ++ after) = after := by
  obtain ⟨w, ws, rfl⟩ := List.exists_cons_of_ne_nil started
  have skip : (lead ++ (w :: ws) ++ after).dropWhile isBlank = w :: ws ++ after := by
    rw [List.append_assoc, List.dropWhile_append,
      if_pos (by simpa [List.dropWhile_eq_nil_iff] using leading)]
    exact List.dropWhile_cons_of_neg (by simp [solid w List.mem_cons_self])
  rw [dropWords_one, skip, dropWhile_word solid ends]

/-- What `splitFirstToken` leaves after the first word is the text after that word, trimmed. -/
theorem splitFirstToken_rest {r token rest : String}
    (split : splitFirstToken r = some (token, rest)) :
    rest = trim (String.ofList (dropWords 1 r.toList)) := by
  rcases splitFirstToken_spec r with ⟨-, none_⟩ |
    ⟨lead, word, after, spelled, leading, started, solid, ends, split', -⟩
  · rw [split] at none_
    cases none_
  · rw [split] at split'
    cases split'
    rw [spelled, dropWords_one_of_split leading started solid ends]

/-- Trimming before dropping words makes no difference once the rest is trimmed. -/
theorem trim_dropWords_trim (k : Nat) (cs : List Char) :
    trim (String.ofList (dropWords k (trim (String.ofList cs)).toList)) =
      trim (String.ofList (dropWords k cs)) := by
  simp only [trim, String.toList_ofList, trimChars_dropWords_trimChars]

/-- The words of the text after the first `k` words are the words after the first `k`. -/
theorem words_dropWords (k : Nat) (s : String) :
    words (trim (String.ofList (dropWords k s.toList))) = (words s).drop k := by
  rw [words_trim]
  simp only [words, String.toList_ofList, wordsOf_dropWords, List.map_drop]

end Text

namespace Command

variable {α : Type}

/-- The nodes entered from `c` along the words `ws`: each word enters the first child, in
declared order, whose name or an alias it matches up to lowercasing, until the words run out
or a word names no child of the node reached. -/
def descent (c : Command α) : List String → List (Command α)
  | [] => []
  | w :: ws =>
    match c.children.find? (·.matchesLabel w) with
    | some d => d :: d.descent ws
    | none => []

/-- The descent enters nothing exactly when the first word names no child. -/
theorem descent_eq_nil_iff (c : Command α) (ws : List String) :
    c.descent ws = [] ↔ c.Stops ws := by
  cases ws with
  | nil => exact ⟨fun _ t head => (by cases head), fun _ => rfl⟩
  | cons w ws =>
    constructor
    · intro empty t head d member
      cases head
      cases found : c.children.find? (·.matchesLabel w) with
      | none => simpa using List.find?_eq_none.mp found d member
      | some e => simp [descent, found] at empty
    · intro stops
      simp [descent, stops.find?_eq_none]

/-- The descent enters at most one node per word. -/
theorem descent_length_le (c : Command α) (ws : List String) :
    (c.descent ws).length ≤ ws.length := by
  induction ws generalizing c with
  | nil => simp [descent]
  | cons w ws ih =>
    cases found : c.children.find? (·.matchesLabel w) with
    | none => simp [descent, found]
    | some d => simpa [descent, found] using ih d

/-- The descent goes as far as it can: the last node entered stops at the words left. -/
theorem descent_last_stops (c : Command α) (ws : List String) :
    ∀ last ∈ (c.descent ws).getLast?, last.Stops (ws.drop (c.descent ws).length) := by
  induction ws generalizing c with
  | nil => simp [descent]
  | cons w ws ih =>
    intro last found
    cases entered : c.children.find? (·.matchesLabel w) with
    | none => simp [descent, entered] at found
    | some d =>
      simp only [descent, entered] at found ⊢
      by_cases deeper : d.descent ws = []
      · -- `d` is the last node: the words after `w` name none of its children.
        rw [deeper] at found ⊢
        cases found
        exact (descent_eq_nil_iff d ws).mp deeper
      · rw [List.getLast?_cons_of_ne_nil deeper] at found
        simpa using ih d last found

/-- `findChild` in closed form: the last node of the descent along the words of the text,
with the text after the walked words, trimmed; the text untouched when nothing is entered. -/
theorem findChild_eq (c : Command α) (r : String) :
    c.findChild r = ((c.descent (words r)).getLast?,
      if (c.descent (words r)).isEmpty then r
      else trim (String.ofList (dropWords (c.descent (words r)).length r.toList))) := by
  fun_induction c.findChild r with
  | case1 c r blank =>
    rw [(splitFirstToken_eq_none_iff r).mp blank]
    rfl
  | case2 c r token rest split missing =>
    rw [(splitFirstToken_eq_some split).1, descent, find?_attach_eq_none missing]
    rfl
  | case3 c r token rest split child member entered empty =>
    have none_left : rest = "" := String.isEmpty_iff.mp empty
    subst none_left
    have noWords : words "" = [] := rfl
    rw [(splitFirstToken_eq_some split).1, descent, find?_attach_eq_some entered]
    simp [noWords, descent, (splitFirstToken_rest split).symm]
  | case4 c r token rest split child member entered more deeper deeperRest below ih =>
    rw [below, Prod.mk.injEq] at ih
    obtain ⟨last, remaining⟩ := ih
    have deeperOn : child.descent (words rest) ≠ [] := by
      intro none_
      rw [none_] at last
      cases last
    have shift (k : Nat) : dropWords (k + 1) r.toList = dropWords k (dropWords 1 r.toList) := rfl
    rw [(splitFirstToken_eq_some split).1, descent, find?_attach_eq_some entered]
    simp only [List.getLast?_cons_of_ne_nil deeperOn, ← last, List.isEmpty_cons, List.length_cons,
      Bool.false_eq_true, if_false, Prod.mk.injEq, true_and]
    rw [remaining, if_neg (by simpa using deeperOn), shift, splitFirstToken_rest split,
      trim_dropWords_trim]
  | case5 c r token rest split child member entered more rest' below ih =>
    rw [below, Prod.mk.injEq] at ih
    have stopped : child.descent (words rest) = [] := List.getLast?_eq_none_iff.mp ih.1.symm
    rw [(splitFirstToken_eq_some split).1, descent, find?_attach_eq_some entered]
    simp [stopped, ← splitFirstToken_rest split]

/-- The greedy descent below a node. When the first word of `r` names no child, `findChild`
enters nothing and hands `r` back untouched, and `resolve` answers the node itself with `r`
trimmed. Otherwise both answer the last node of the descent along the words of `r`, each
word entering the first declared child it names up to lowercasing, with the text after the
walked words, trimmed: its words are the words not walked, it is empty exactly when every
word was walked, and its first word names no child of the node reached. -/
theorem findChild_greedy (c : Command α) (r : String) :
    (c.Stops (words r) → c.findChild r = (none, r) ∧ c.resolve r = (c, trim r)) ∧
    (¬ c.Stops (words r) →
      let ds := c.descent (words r)
      let rest := trim (String.ofList (dropWords ds.length r.toList))
      ∃ last, ds.getLast? = some last ∧ c.findChild r = (some last, rest) ∧
        c.resolve r = (last, rest) ∧ words rest = (words r).drop ds.length ∧
        (rest = "" ↔ ds.length = (words r).length) ∧ last.Stops (words rest)) := by
  constructor
  · intro stops
    have found : c.findChild r = (none, r) := by
      rw [findChild_eq, (descent_eq_nil_iff c _).mpr stops]
      rfl
    exact ⟨found, by rw [resolve, found]⟩
  · intro moves
    dsimp only
    have found := findChild_eq c r
    have bounded := descent_length_le c (words r)
    have stopsAfter := descent_last_stops c (words r)
    have entered : c.descent (words r) ≠ [] :=
      fun none_ => moves ((descent_eq_nil_iff c _).mp none_)
    generalize c.descent (words r) = ds at found bounded stopsAfter entered ⊢
    have isLast := List.getLast?_eq_some_getLast entered
    rw [isLast, if_neg (by simpa using entered)] at found
    have remaining := words_dropWords ds.length r
    refine ⟨_, isLast, found, by rw [resolve, found], remaining, ?_, ?_⟩
    · -- At most one node is entered per word, so all words are walked exactly when none is left.
      have empty := trim_eq_empty_iff (String.ofList (dropWords ds.length r.toList))
      rw [← words_trim, remaining, List.drop_eq_nil_iff] at empty
      rw [empty]
      omega
    · rw [remaining]
      exact stopsAfter _ isLast

end Command

end ChatBot
