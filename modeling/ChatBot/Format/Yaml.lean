import ChatBot.Format.YamlParser
import ChatBot.Format.Shape
import ChatBot.Format.Binary64

/-!
# Reading YAML against a shape

The events of the first document are collected first; a malformed document keeps the
events made before the problem, and the problem is reported only when reading needs an
event past them (or, if reading succeeds, afterwards). A second document is refused.

Reading follows the shape:

* a string is any scalar, taken as written;
* a truth value is `true`, `True`, `TRUE`, `false`, `False` or `FALSE` written as a plain
  scalar (whatever its tag) or as a literal block scalar tagged `!!bool`;
* an optional value is absent for a plain empty scalar, `~` or `null` (in any of its
  three spellings), and present otherwise;
* a list or record may also be written as an empty plain scalar, and is then empty;
* a record reads a mapping by key, skipping keys it does not declare.

A failure names the path of the node (`logging.level`, `owners[1]`) and the position where
the node starts. What was found is described by resolving a plain scalar the way YAML does:
empty or null, a truth value, an integer, a float, or else a string.
-/

namespace ChatBot

namespace YamlFormat

/-- The events of one document, as the reader sees them. Aliases point at the event that
carries their anchor. -/
inductive Node where
  | alias (target : Nat)
  | scalar (tag : Option String) (text : String) (style : Style)
  | sequenceStart
  | sequenceEnd
  | mappingStart
  | mappingEnd
  /-- An empty stream. -/
  | void
deriving Inhabited

/-- Why reading stopped. -/
inductive Failure where
  /-- A failure of reading, placed at a node's start and path once known. -/
  | message (text : String) (place : Option (Mark × String))
  | malformed (p : Problem)
  | endOfStream
  | moreThanOneDocument
  | unknownAnchor (mark : Mark)
deriving Inhabited

/-- The words of a failure, as reports show them. -/
def Failure.text : Failure → String
  | .message t none => t
  | .message t (some (mark, path)) =>
    (if path == "." then "" else path ++ ": ") ++ t ++
      (if mark.isStart then "" else " at " ++ mark.text)
  | .malformed p => p.text
  | .endOfStream => "EOF while parsing a value"
  | .moreThanOneDocument =>
    "deserializing from YAML containing more than one document is not supported"
  | .unknownAnchor mark => "unknown anchor" ++ (if mark.isStart then "" else " at " ++ mark.text)

/-- Places a failure that has no place yet. -/
def Failure.placed (mark : Mark) (path : String) : Failure → Failure
  | .message t none => .message t (some (mark, path))
  | f => f

/-- A document: its nodes with their marks, and the problem that cut it short, if any. -/
structure Document where
  nodes : Array (Node × Mark) := #[]
  problem : Option Failure := none
deriving Inhabited

/-! ## Collecting a document -/

/-- Adds a node to a document. -/
def Document.add (doc : Document) (n : Node) (m : Mark) : Document :=
  { doc with nodes := doc.nodes.push (n, m) }

/-- Collects the events of the next document from parser `p`. None when the stream has
ended; for the first document an empty stream is one `void` node. A malformed stream gives
the document cut short, with its problem, and no parser to go on with. -/
def loadDocument (first : Bool) : Nat → Parser → Document → List (String × Nat) →
    Option Document × Option Parser
  | 0, p, doc, _ => (some doc, some p)
  | fuel + 1, p, doc, anchors =>
    match nextEvent.run p with
    | .error problem => (some { doc with problem := some (.malformed problem) }, none)
    | .ok (none, p) => (none, some p)
    | .ok (some e, p) =>
      let anchored (a : Option String) : List (String × Nat) :=
        match a with
        | some name => (name, doc.nodes.size) :: anchors
        | none => anchors
      match e.kind with
      | .streamStart | .documentStart => loadDocument first fuel p doc anchors
      | .streamEnd =>
        if first then
          (some (if doc.nodes.isEmpty then doc.add .void e.start else doc), some p)
        else (none, some p)
      | .documentEnd => (some doc, some p)
      | .alias name =>
        match anchors.lookup name with
        | some target => loadDocument first fuel p (doc.add (.alias target) e.start) anchors
        | none => (some { doc with problem := some (.unknownAnchor e.start) }, some p)
      | .scalar a tag text style =>
        loadDocument first fuel p (doc.add (.scalar tag text style) e.start) (anchored a)
      | .sequenceStart a _ => loadDocument first fuel p (doc.add .sequenceStart e.start) (anchored a)
      | .sequenceEnd => loadDocument first fuel p (doc.add .sequenceEnd e.start) anchors
      | .mappingStart a _ => loadDocument first fuel p (doc.add .mappingStart e.start) (anchored a)
      | .mappingEnd => loadDocument first fuel p (doc.add .mappingEnd e.start) anchors

/-! ## What a scalar says -/

/-- Whether a scalar is one of the spellings of null. -/
def isNull (s : String) : Bool := s == "~" || s == "null" || s == "Null" || s == "NULL"

/-- The truth value a scalar spells, if any. -/
def truthOf? (s : String) : Option Bool :=
  if s == "true" || s == "True" || s == "TRUE" then some true
  else if s == "false" || s == "False" || s == "FALSE" then some false
  else none

/-- Whether a scalar is a zero followed by more digits (after an optional sign): such a
scalar is a string, not a number. -/
def zeroLed (s : String) : Bool :=
  let t := if s.startsWith "-" || s.startsWith "+" then (s.drop 1).toString else s
  t.length > 1 && t.startsWith "0" && (t.drop 1).all Char.isDigit

/-- The value of a digit in bases up to 36. -/
def digitValue (c : Char) : Option Nat :=
  if c.isDigit then some (c.toNat - 48)
  else if 'a' ≤ c && c ≤ 'z' then some (c.toNat - 87)
  else if 'A' ≤ c && c ≤ 'Z' then some (c.toNat - 55)
  else none

/-- The number spelled by one or more digits of base `radix`. -/
def digitsIn (radix : Nat) (s : String) : Option Nat :=
  if s.isEmpty then none
  else s.toList.foldlM (fun acc c => (digitValue c).bind fun d =>
    if d < radix then some (acc * radix + d) else none) 0

/-- An unsigned number in base `radix`, with an optional `+`, below `bound`. -/
def unsignedIn (radix bound : Nat) (s : String) : Option Nat :=
  let digits := if s.startsWith "+" then (s.drop 1).toString else s
  (digitsIn radix digits).filter (· < bound)

/-- A signed number in base `radix`, with an optional sign, of magnitude within `bound`
(`bound` itself only when negative). -/
def signedIn (radix bound : Nat) (s : String) : Option Int :=
  if s.startsWith "-" then
    (digitsIn radix (s.drop 1).toString).filter (· ≤ bound) |>.map fun n => -(n : Int)
  else (unsignedIn radix bound s).map (fun n => (n : Int))

/-- The prefixes of numbers in other bases. -/
def radixPrefixes : List (String × Nat) := [("0x", 16), ("0o", 8), ("0b", 2)]

/-- An unsigned integer below `bound`: decimal, or hexadecimal, octal or binary after its
prefix, with an optional `+` before all. -/
def unsignedOf? (bound : Nat) (s : String) : Option Nat :=
  let rest := if s.startsWith "+" then (s.drop 1).toString else s
  let prefixed := radixPrefixes.findSome? fun (p, radix) =>
    if rest.startsWith p then
      let digits := (rest.drop 2).toString
      if digits.startsWith "+" || digits.startsWith "-" then some none
      else (digitsIn radix digits).filter (· < bound) |>.map some
    else none
  match prefixed with
  | some r => r
  | none =>
    if rest.startsWith "+" || rest.startsWith "-" || zeroLed s then none
    else (digitsIn 10 rest).filter (· < bound)

/-- A negative integer of magnitude at most `bound`, decimal or after `-0x`, `-0o`, `-0b`. -/
def negativeOf? (bound : Nat) (s : String) : Option Int :=
  let prefixed := radixPrefixes.findSome? fun (p, radix) =>
    if s.startsWith ("-" ++ p) then signedIn radix bound ("-" ++ (s.drop 3).toString) else none
  match prefixed with
  | some i => some i
  | none => if zeroLed s then none else signedIn 10 bound s

/-- What an integer scalar is, in the words of a failure: a 64-bit integer, or a wider one
named with its type. -/
def integerFound? (s : String) : Option Found :=
  match unsignedOf? (Nat.pow 2 64) s with
  | some n => some (.number (.unsigned n))
  | none => match negativeOf? (Nat.pow 2 63) s with
    | some i => some (.number (.signed i))
    | none => match unsignedOf? (Nat.pow 2 128) s with
      | some n => some (.other ("integer \x60" ++ toString n ++ "\x60 as u128"))
      | none => (negativeOf? (Nat.pow 2 127) s).map fun i =>
        .other ("integer \x60" ++ toString i ++ "\x60 as i128")

/-- A finite decimal number: optional sign, digits with an optional fraction (or a fraction
alone), and an optional exponent. -/
def decimalOf? (s : String) : Option Float64 :=
  let cs := s.toList
  let (negative, cs) := match cs with
    | '-' :: rest => (true, rest)
    | '+' :: rest => (false, rest)
    | _ => (false, cs)
  let whole := cs.takeWhile Char.isDigit
  let cs := cs.drop whole.length
  let (fraction, cs) := match cs with
    | '.' :: rest => (rest.takeWhile Char.isDigit, rest.drop (rest.takeWhile Char.isDigit).length)
    | _ => ([], cs)
  if whole.isEmpty && fraction.isEmpty then none else
  let exponent : Option Int := match cs with
    | [] => some 0
    | e :: rest =>
      if e == 'e' || e == 'E' then
        let (sign, ds) : Int × List Char := match rest with
          | '-' :: ds => (-1, ds)
          | '+' :: ds => (1, ds)
          | ds => (1, ds)
        if !ds.isEmpty && ds.all Char.isDigit then some (sign * (String.ofList ds).toNat!) else none
      else none
  exponent.bind fun e =>
    let digits := (String.ofList (whole ++ fraction)).toNat!
    (Binary64.ofScientific digits (e - fraction.length)).map (.finite negative)

/-- The float a scalar spells: `.inf`, `-.inf`, `.nan` (three spellings each), or a finite
decimal number. -/
def floatOf? (s : String) : Option Float64 :=
  let unsigned := if s.startsWith "+" then
      let rest := (s.drop 1).toString
      if rest.startsWith "+" || rest.startsWith "-" then none else some rest
    else some s
  unsigned.bind fun u =>
    if u == ".inf" || u == ".Inf" || u == ".INF" then some (.infinite false)
    else if s == "-.inf" || s == "-.Inf" || s == "-.INF" then some (.infinite true)
    else if s == ".nan" || s == ".NaN" || s == ".NAN" then some .nan
    else decimalOf? u

/-- What an untagged plain scalar is: null (or empty), a truth value, an integer, a float,
or else a string. -/
def resolvePlain (s : String) : Found :=
  if s.isEmpty || isNull s then .unit
  else match truthOf? s with
    | some b => .flag b
    | none => match integerFound? s with
      | some f => f
      | none =>
        match (if zeroLed s then none else floatOf? s) with
        | some x => .number (.float x.quoted)
        | none => .text s

/-- The standard tag of a type. -/
def standardTag (name : String) : String := "tag:yaml.org,2002:" ++ name

/-- The failure text for a scalar whose tag it does not fit. -/
def invalidValue (found : Found) (expected : String) : String :=
  "invalid value: " ++ found.describe ++ ", expected " ++ expected

/-- What a scalar is, as a failure describes it: resolved by its tag when it has a standard
one (failing when the text does not fit the tag), as a plain scalar when untagged or tagged
locally, and as a string otherwise. -/
def scalarFound (tag : Option String) (text : String) (style : Style) : Except String Found :=
  match tag with
  | some t =>
    if t == standardTag "bool" then
      match truthOf? text with
      | some b => .ok (.flag b)
      | none => .error (invalidValue (.text text) "a boolean")
    else if t == standardTag "int" then
      match integerFound? text with
      | some f => .ok f
      | none => .error (invalidValue (.text text) "an integer")
    else if t == standardTag "float" then
      match floatOf? text with
      | some x => .ok (.number (.float x.quoted))
      | none => .error (invalidValue (.text text) "a float")
    else if t == standardTag "null" then
      if isNull text then .ok .unit else .error (invalidValue (.text text) "null")
    else if t.startsWith "!" && style == .plain then .ok (resolvePlain text)
    else .ok (.text text)
  | none => if style == .plain then .ok (resolvePlain text) else .ok (.text text)

/-- Whether a scalar is read for a truth value by its text alone: a plain scalar, whatever
its tag, or a literal block scalar carrying exactly the type's standard tag. Any other
scalar is resolved as a failure describes it. -/
def spellsDirectly (typeTag : String) (tag : Option String) (style : Style) : Bool :=
  style == .plain || (style == .literal && tag == some typeTag)

/-- The failure for a node that does not fit what was expected. -/
def misfit (n : Node) (expected : String) : Failure :=
  match n with
  | .scalar tag text style =>
    match scalarFound tag text style with
    | .ok found => .message (invalidType found expected) none
    | .error message => .message message none
  | .sequenceStart => .message (invalidType .list expected) none
  | .mappingStart => .message (invalidType .map expected) none
  | _ => .endOfStream

/-! ## Reading a document against a shape -/

/-- Where a node stands in the document, as failures name it. -/
inductive Path where
  | root
  | seq (parent : Path) (index : Nat)
  | map (parent : Path) (key : String)
  | alias (parent : Path)
  | unknown (parent : Path)

/-- A path as failures write it: `.` for the root, `a.b` for keys, `a[1]` for items, `?` for
a key that is not a scalar. -/
def Path.render : Path → String
  | .root => "."
  | .seq p i => p.render ++ "[" ++ toString i ++ "]"
  | .map p k => (match p with | .root => "" | _ => p.render ++ ".") ++ k
  | .alias p => p.render
  | .unknown p => (match p with | .root => "" | _ => p.render ++ ".") ++ "?"

/-- A reading step over a document; the state is the index of the next node. -/
abbrev Read := ReaderT Document (StateT Nat (Except Failure))

variable {α : Type}

/-- The next node, not taken; past the nodes, the document's problem (or the end). -/
def peekNode : Read (Node × Mark) := do
  let doc ← read
  match doc.nodes[← get]? with
  | some n => pure n
  | none => throw (doc.problem.getD .endOfStream)

/-- Takes the next node. -/
def nextNode : Read (Node × Mark) := do
  let n ← peekNode
  modify (· + 1)
  pure n

/-- Reads at node `target` (an alias's anchor), then goes on where it was. -/
def jump (target : Nat) (x : Read α) : Read α := do
  let back ← get
  set target
  let r ← x
  set back
  pure r

/-- Gives failures of `x` without a place the node's mark and path. -/
def placing (mark : Mark) (path : Path) (x : Read α) : Read α :=
  tryCatch x fun f => throw (f.placed mark path.render)

/-- A bound on the steps of a loop over the nodes. -/
def nodeRoom : Read Nat := do
  pure ((← read).nodes.size + 1)

/-- Skips one node with everything inside it. -/
def skipNode : Read Unit := do
  let mut depth : Nat := 0
  for _ in [0:← nodeRoom] do
    let (n, _) ← nextNode
    match n with
    | .sequenceStart | .mappingStart => depth := depth + 1
    | .sequenceEnd | .mappingEnd => depth := depth - 1
    | _ => pure ()
    if depth == 0 then break

/-- A mapping key, as a field name. -/
def keyName : Nat → Path → Read String
  | 0, _ => throw (.message "recursion limit exceeded" none)
  | fuel + 1, path => do
    let (n, mark) ← nextNode
    placing mark path (match n with
      | .alias target => jump target (keyName fuel (.alias path))
      | .scalar _ text _ => pure text
      | other => throw (misfit other "field identifier"))

/-- Reads a node against a shape. -/
def readAt : Nat → Shape → Path → Read Datum
  | 0, _, _ => throw (.message "recursion limit exceeded" none)
  | fuel + 1, .optional inner, path => do
    let (n, _) ← peekNode
    match n with
    | .alias target =>
      modify (· + 1)
      jump target (readAt fuel (.optional inner) (.alias path))
    | .scalar tag text style =>
      let present ←
        if style != .plain then pure true
        else match tag with
          | some t =>
            if t == standardTag "null" then
              if isNull text then pure false
              else throw (.message (invalidValue (.text text) "null") none)
            else pure true
          | none => pure (!text.isEmpty && !isNull text)
      if present then return .just (← readAt fuel inner path)
      modify (· + 1)
      pure .nothing
    | .sequenceStart | .mappingStart => return .just (← readAt fuel inner path)
    | _ =>
      modify (· + 1)
      pure .nothing
  | fuel + 1, .text, path => do
    let (n, mark) ← nextNode
    placing mark path (match n with
      | .alias target => jump target (readAt fuel .text (.alias path))
      | .scalar _ text _ => pure (.text text)
      | other => throw (misfit other "a string"))
  | fuel + 1, .flag, path => do
    let (n, mark) ← nextNode
    placing mark path (match n with
      | .alias target => jump target (readAt fuel .flag (.alias path))
      | .scalar tag text style =>
        match (if spellsDirectly (standardTag "bool") tag style then truthOf? text else none) with
        | some b => pure (.flag b)
        | none => throw (misfit (.scalar tag text style) "a boolean")
      | other => throw (misfit other "a boolean"))
  | fuel + 1, .list item, path => do
    let (n, mark) ← nextNode
    placing mark path (match n with
      | .alias target => jump target (readAt fuel (.list item) (.alias path))
      | .sequenceStart => do
        let mut items : Array Datum := #[]
        for i in [0:← nodeRoom] do
          let (m, _) ← peekNode
          match m with
          | .sequenceEnd | .void => break
          | _ => items := items.push (← readAt fuel item (.seq path i))
        discard nextNode
        pure (.list items.toList)
      | .void => pure (.list [])
      | .scalar _ text .plain =>
        if text.isEmpty then pure (.list []) else throw (misfit n "a sequence")
      | other => throw (misfit other "a sequence"))
  | fuel + 1, .record name fields lenient, path => do
    let (n, mark) ← nextNode
    placing mark path (match n with
      | .alias target => jump target (readAt fuel (.record name fields lenient) (.alias path))
      | .mappingStart => do
        let mut found : List (String × Datum) := []
        for _ in [0:← nodeRoom] do
          let (k, _) ← peekNode
          match k with
          | .mappingEnd | .void => break
          | _ =>
            let keyPath : Option String := match k with
              | .scalar _ text _ => some text
              | _ => none
            let key ← keyName fuel path
            match fields.lookup key with
            | some shape =>
              if found.any (·.1 == key) then throw (.message (duplicateField key) none)
              let place := match keyPath with
                | some k => Path.map path k
                | none => Path.unknown path
              found := found ++ [(key, ← readAt fuel shape place)]
            | none => skipNode
        match Shape.complete fields lenient found with
        | .ok out =>
          discard nextNode
          pure (.record out)
        | .error message => throw (.message message none)
      | .void => complete fields lenient
      | .scalar _ text .plain =>
        if text.isEmpty then complete fields lenient
        else throw (misfit n ("struct " ++ name))
      | other => throw (misfit other ("struct " ++ name)))
  | fuel + 1, .choice name names, path => do
    let (n, mark) ← nextNode
    placing mark path (match n with
      | .alias target => jump target (readAt fuel (.choice name names) (.alias path))
      | .scalar _ text _ =>
        if names.contains text then pure (.choice text)
        else throw (.message (unknownVariant text names) none)
      | other => throw (misfit other ("enum " ++ name)))
where
  /-- A record with no fields given. -/
  complete (fields : List (String × Shape)) (lenient : Bool) : Read Datum :=
    match Shape.complete fields lenient [] with
    | .ok out => pure (.record out)
    | .error message => throw (.message message none)

/-- The byte offset of the first character a YAML stream may not hold, if any. -/
def forbiddenAt? (text : String) : Option Nat :=
  let allowed (c : Char) : Bool :=
    let v := c.toNat
    v == 0x09 || v == 0x0A || v == 0x0D || (0x20 ≤ v && v ≤ 0x7E) || v == 0x85 ||
      (0xA0 ≤ v && v ≤ 0xD7FF) || (0xE000 ≤ v && v ≤ 0xFFFD) || v ≥ 0x10000
  let (_, found) := text.toList.foldl (fun (offset, found) c =>
    match found with
    | some _ => (offset, found)
    | none => if allowed c then (offset + c.utf8Size, none) else (offset, some offset)) (0, none)
  found

/-- Reads the single document of a YAML stream against a shape. -/
def read (shape : Shape) (text : String) : Except Failure Datum :=
  match forbiddenAt? text with
  | some offset =>
    .error (.malformed { problem := "control characters are not allowed", offset := offset })
  | none =>
    let body := if text.startsWith "\uFEFF" then (text.drop 1).toString else text
    let input := body.toList.toArray
    let fuel := input.size * 4 + 16
    match loadDocument true fuel { scanner := { input := input } } {} [] with
    | (none, _) => .error .endOfStream
    | (some doc, rest) =>
      match ((readAt 64 shape .root).run doc).run 0 with
      | .error f => .error f
      | .ok (d, _) =>
        match doc.problem, rest with
        | some f, _ => .error f
        | none, none => .ok d
        | none, some p =>
          match loadDocument false fuel p {} [] with
          | (none, _) => .ok d
          | (some _, _) => .error .moreThanOneDocument

/-- Reads YAML text against a shape, failing with the report. -/
def parse (shape : Shape) (text : String) : Except String Datum :=
  (read shape text).mapError (·.text)

end YamlFormat

end ChatBot
