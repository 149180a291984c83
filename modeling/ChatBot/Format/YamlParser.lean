import ChatBot.Format.YamlScanner

/-!
# YAML events

The second stage of reading YAML: tokens become events, the way a reader walks the
document: the start and end of the stream and of each document, scalars, aliases, and the
start and end of each sequence and mapping. The parser is a state machine with a stack of
states to return to; each call makes one event and asks the scanner for exactly the tokens
it needs.

Missing parts of a document are events too: a key or value left out is an empty plain
scalar, and so is a node that has only an anchor or a tag.
-/

namespace ChatBot

namespace YamlFormat

/-- The kinds of events. A scalar carries its anchor, its resolved tag, its text and
style; collections carry their anchor and tag. -/
inductive EventKind where
  | streamStart
  | streamEnd
  | documentStart
  | documentEnd
  | alias (name : String)
  | scalar (anchor : Option String) (tag : Option String) (text : String) (style : Style)
  | sequenceStart (anchor : Option String) (tag : Option String)
  | sequenceEnd
  | mappingStart (anchor : Option String) (tag : Option String)
  | mappingEnd
deriving Inhabited, Repr

/-- An event and the mark where it starts. -/
structure Event where
  kind : EventKind
  start : Mark
deriving Inhabited, Repr

/-- What the parser does next. -/
inductive Phase where
  | streamStart
  | implicitDocumentStart
  | documentStart
  | documentContent
  | documentEnd
  | blockNode
  | blockSequenceFirstEntry
  | blockSequenceEntry
  | indentlessSequenceEntry
  | blockMappingFirstKey
  | blockMappingKey
  | blockMappingValue
  | flowSequenceFirstEntry
  | flowSequenceEntry
  | flowSequenceEntryMappingKey
  | flowSequenceEntryMappingValue
  | flowSequenceEntryMappingEnd
  | flowMappingFirstKey
  | flowMappingKey
  | flowMappingValue
  | flowMappingEmptyValue
  | finished
deriving Inhabited, DecidableEq, Repr

/-- The parser: the scanner, the current phase, the phases to return to, the marks where
the open collections started, and the tag handles of the current document. -/
structure Parser where
  scanner : Scanner
  phase : Phase := .streamStart
  phases : List Phase := []
  marks : List Mark := []
  tagHandles : List (String × String) := []
deriving Inhabited

/-- A parsing step. -/
abbrev Parse := StateT Parser (Except Problem)

variable {α : Type}

/-- Runs a scanning step. -/
def scan (x : Scan α) : Parse α := fun p => do
  let (a, s) ← x.run p.scanner
  pure (a, { p with scanner := s })

/-- The next token, not taken. -/
def peek : Parse Token := scan peekToken

/-- Takes the next token. -/
def advance : Parse Unit := scan skipToken

/-- Goes on with `phase`. -/
def goTo (phase : Phase) : Parse Unit :=
  modify fun p => { p with phase := phase }

/-- Remembers `phase` to return to. -/
def pushPhase (phase : Phase) : Parse Unit :=
  modify fun p => { p with phases := phase :: p.phases }

/-- Returns to the last remembered phase. -/
def popPhase : Parse Unit :=
  modify fun p => { p with phase := p.phases.headD .finished, phases := p.phases.drop 1 }

/-- Remembers where a collection started. -/
def pushMark (m : Mark) : Parse Unit :=
  modify fun p => { p with marks := m :: p.marks }

/-- Forgets where the innermost collection started, returning it. -/
def popMark : Parse Mark := do
  let p ← get
  set { p with marks := p.marks.drop 1 }
  pure (p.marks.headD {})

/-- Fails at `mark`. -/
def problemAt (problem : String) (mark : Mark) : Parse α :=
  throw { problem := problem, mark := mark }

/-- Fails at `mark`, while reading what `context` names from `contextMark`. -/
def problemWhile (context : String) (contextMark : Mark) (problem : String) (mark : Mark) :
    Parse α :=
  throw { problem := problem, mark := mark, context := some context, contextMark := contextMark }

/-- An empty plain scalar at `mark`, standing for a node left out. -/
def emptyScalar (mark : Mark) : Event :=
  ⟨.scalar none none "" .plain, mark⟩

/-- The directives before a document; the default tag handles `!` and `!!` are added unless
the document redefines them. -/
def directives : Parse Unit := do
  let mut version := false
  let mut handles : List (String × String) := []
  for _ in [0:(← get).scanner.input.size + 2] do
    let t ← peek
    match t.kind with
    | .versionDirective major minor =>
      if version then problemAt "found duplicate %YAML directive" t.start
      if major != 1 || (minor != 1 && minor != 2) then
        problemAt "found incompatible YAML document" t.start
      version := true
      advance
    | .tagDirective handle pfx =>
      if handles.any (·.1 == handle) then problemAt "found duplicate %TAG directive" t.start
      handles := handles ++ [(handle, pfx)]
      advance
    | _ => break
  let defaults := [("!", "!"), ("!!", "tag:yaml.org,2002:")]
  let all := handles ++ defaults.filter fun d => !handles.any (·.1 == d.1)
  modify fun p => { p with tagHandles := all }

/-- A node: an alias, or a scalar or collection with its optional anchor and tag. In block
context a block collection may start here; `indentless` allows a block sequence whose `-`
entries stand at the indentation of the mapping key that holds it. -/
def node (block indentless : Bool) : Parse Event := do
  let first ← peek
  if let .alias name := first.kind then
    popPhase
    advance
    return ⟨.alias name, first.start⟩
  let mut t := first
  let mut anchor : Option String := none
  let mut handle : Option (String × String) := none
  let mut tagMark := first.start
  match t.kind with
  | .anchor a =>
    anchor := some a
    advance
    t ← peek
    if let .tag h s := t.kind then
      handle := some (h, s)
      tagMark := t.start
      advance
      t ← peek
  | .tag h s =>
    handle := some (h, s)
    advance
    t ← peek
    if let .anchor a := t.kind then
      anchor := some a
      advance
      t ← peek
  | _ => pure ()
  let start := first.start
  let tag ← match handle with
    | none => pure none
    | some (h, s) =>
      if h == "" then pure (some s)
      else match (← get).tagHandles.lookup h with
        | some pfx => pure (some (pfx ++ s))
        | none => problemWhile "while parsing a node" start "found undefined tag handle" tagMark
  if indentless && t.kind == .blockEntry then
    goTo .indentlessSequenceEntry
    return ⟨.sequenceStart anchor tag, start⟩
  match t.kind with
  | .scalar text style =>
    popPhase
    advance
    pure ⟨.scalar anchor tag text style, start⟩
  | .flowSequenceStart =>
    goTo .flowSequenceFirstEntry
    pure ⟨.sequenceStart anchor tag, start⟩
  | .flowMappingStart =>
    goTo .flowMappingFirstKey
    pure ⟨.mappingStart anchor tag, start⟩
  | .blockSequenceStart =>
    if block then
      goTo .blockSequenceFirstEntry
      pure ⟨.sequenceStart anchor tag, start⟩
    else missing anchor tag start t
  | .blockMappingStart =>
    if block then
      goTo .blockMappingFirstKey
      pure ⟨.mappingStart anchor tag, start⟩
    else missing anchor tag start t
  | _ => missing anchor tag start t
where
  /-- No content follows: an anchor or tag alone stands for an empty scalar, otherwise the
  node is missing. -/
  missing (anchor tag : Option String) (start : Mark) (t : Token) : Parse Event := do
    if anchor.isSome || tag.isSome then
      popPhase
      pure ⟨.scalar anchor tag "" .plain, start⟩
    else
      problemWhile (if block then "while parsing a block node" else "while parsing a flow node")
        start "did not find expected node content" t.start

/-- The start of a document, or the end of the stream. -/
def documentStart (implicit : Bool) : Parse Event := do
  let mut t ← peek
  if !implicit then
    for _ in [0:(← get).scanner.input.size + 2] do
      if t.kind == .documentEnd then
        advance
        t ← peek
      else break
  let isDirective := match t.kind with
    | .versionDirective .. | .tagDirective .. => true
    | _ => false
  if implicit && !isDirective && t.kind != .documentStart && t.kind != .streamEnd then
    directives
    pushPhase .documentEnd
    goTo .blockNode
    return ⟨.documentStart, t.start⟩
  if t.kind != .streamEnd then
    let start := t.start
    directives
    let next ← peek
    if next.kind != .documentStart then problemAt "did not find expected <document start>" next.start
    pushPhase .documentEnd
    goTo .documentContent
    advance
    return ⟨.documentStart, start⟩
  goTo .finished
  advance
  pure ⟨.streamEnd, t.start⟩

/-- The content of an explicit document, possibly empty. -/
def documentContent : Parse Event := do
  let t ← peek
  match t.kind with
  | .versionDirective .. | .tagDirective .. | .documentStart | .documentEnd | .streamEnd =>
    popPhase
    pure (emptyScalar t.start)
  | _ => node true false

/-- The end of a document, explicit (`...`) or not. -/
def documentEnd : Parse Event := do
  let t ← peek
  if t.kind == .documentEnd then advance
  modify fun p => { p with tagHandles := [] }
  goTo .documentStart
  pure ⟨.documentEnd, t.start⟩

/-- An entry of a block sequence, or its end. -/
def blockSequenceEntry (first : Bool) : Parse Event := do
  if first then
    pushMark (← peek).start
    advance
  let t ← peek
  match t.kind with
  | .blockEntry =>
    let mark := t.stop
    advance
    let t ← peek
    if t.kind != .blockEntry && t.kind != .blockEnd then
      pushPhase .blockSequenceEntry
      node true false
    else
      goTo .blockSequenceEntry
      pure (emptyScalar mark)
  | .blockEnd =>
    popPhase
    discard popMark
    advance
    pure ⟨.sequenceEnd, t.start⟩
  | _ =>
    problemWhile "while parsing a block collection" (← popMark) "did not find expected '-' indicator"
      t.start

/-- An entry of a sequence whose entries stand at the indentation of its key. -/
def indentlessSequenceEntry : Parse Event := do
  let t ← peek
  if t.kind == .blockEntry then
    let mark := t.stop
    advance
    let t ← peek
    if t.kind != .blockEntry && t.kind != .key && t.kind != .value && t.kind != .blockEnd then
      pushPhase .indentlessSequenceEntry
      node true false
    else
      goTo .indentlessSequenceEntry
      pure (emptyScalar mark)
  else
    popPhase
    pure ⟨.sequenceEnd, t.start⟩

/-- A key of a block mapping, or its end. -/
def blockMappingKey (first : Bool) : Parse Event := do
  if first then
    pushMark (← peek).start
    advance
  let t ← peek
  match t.kind with
  | .key =>
    let mark := t.stop
    advance
    let t ← peek
    if t.kind != .key && t.kind != .value && t.kind != .blockEnd then
      pushPhase .blockMappingValue
      node true true
    else
      goTo .blockMappingValue
      pure (emptyScalar mark)
  | .blockEnd =>
    popPhase
    discard popMark
    advance
    pure ⟨.mappingEnd, t.start⟩
  | _ =>
    problemWhile "while parsing a block mapping" (← popMark) "did not find expected key" t.start

/-- A value of a block mapping, possibly left out. -/
def blockMappingValue : Parse Event := do
  let t ← peek
  if t.kind == .value then
    let mark := t.stop
    advance
    let t ← peek
    if t.kind != .key && t.kind != .value && t.kind != .blockEnd then
      pushPhase .blockMappingKey
      node true true
    else
      goTo .blockMappingKey
      pure (emptyScalar mark)
  else
    goTo .blockMappingKey
    pure (emptyScalar t.start)

/-- An entry of a flow sequence, or its end. A `key: value` entry is a one-pair mapping. -/
def flowSequenceEntry (first : Bool) : Parse Event := do
  if first then
    pushMark (← peek).start
    advance
  let mut t ← peek
  if t.kind != .flowSequenceEnd then
    if !first then
      if t.kind == .flowEntry then
        advance
        t ← peek
      else
        problemWhile "while parsing a flow sequence" (← popMark) "did not find expected ',' or ']'"
          t.start
    if t.kind == .key then
      goTo .flowSequenceEntryMappingKey
      advance
      return ⟨.mappingStart none none, t.start⟩
    if t.kind != .flowSequenceEnd then
      pushPhase .flowSequenceEntry
      return ← node false false
  popPhase
  discard popMark
  advance
  pure ⟨.sequenceEnd, t.start⟩

/-- The key of a one-pair mapping in a flow sequence. -/
def flowSequenceEntryMappingKey : Parse Event := do
  let t ← peek
  if t.kind != .value && t.kind != .flowEntry && t.kind != .flowSequenceEnd then
    pushPhase .flowSequenceEntryMappingValue
    node false false
  else
    let mark := t.stop
    advance
    goTo .flowSequenceEntryMappingValue
    pure (emptyScalar mark)

/-- The value of a one-pair mapping in a flow sequence. -/
def flowSequenceEntryMappingValue : Parse Event := do
  let t ← peek
  if t.kind == .value then
    advance
    let t ← peek
    if t.kind != .flowEntry && t.kind != .flowSequenceEnd then
      pushPhase .flowSequenceEntryMappingEnd
      return ← node false false
    goTo .flowSequenceEntryMappingEnd
    return emptyScalar t.start
  goTo .flowSequenceEntryMappingEnd
  pure (emptyScalar t.start)

/-- The end of a one-pair mapping in a flow sequence. -/
def flowSequenceEntryMappingEnd : Parse Event := do
  let t ← peek
  goTo .flowSequenceEntry
  pure ⟨.mappingEnd, t.start⟩

/-- A key of a flow mapping, or its end. -/
def flowMappingKey (first : Bool) : Parse Event := do
  if first then
    pushMark (← peek).start
    advance
  let mut t ← peek
  if t.kind != .flowMappingEnd then
    if !first then
      if t.kind == .flowEntry then
        advance
        t ← peek
      else
        problemWhile "while parsing a flow mapping" (← popMark) "did not find expected ',' or '\x7d'"
          t.start
    if t.kind == .key then
      advance
      let next ← peek
      if next.kind != .value && next.kind != .flowEntry && next.kind != .flowMappingEnd then
        pushPhase .flowMappingValue
        return ← node false false
      goTo .flowMappingValue
      return emptyScalar next.start
    if t.kind != .flowMappingEnd then
      pushPhase .flowMappingEmptyValue
      return ← node false false
  popPhase
  discard popMark
  advance
  pure ⟨.mappingEnd, t.start⟩

/-- A value of a flow mapping, possibly left out (always, for a key without `?` or `:`). -/
def flowMappingValue (empty : Bool) : Parse Event := do
  let t ← peek
  if empty then
    goTo .flowMappingKey
    return emptyScalar t.start
  if t.kind == .value then
    advance
    let t ← peek
    if t.kind != .flowEntry && t.kind != .flowMappingEnd then
      pushPhase .flowMappingKey
      return ← node false false
    goTo .flowMappingKey
    return emptyScalar t.start
  goTo .flowMappingKey
  pure (emptyScalar t.start)

/-- The next event; none once the stream has ended. -/
def nextEvent : Parse (Option Event) := do
  match (← get).phase with
  | .streamStart =>
    let t ← peek
    if t.kind != .streamStart then problemAt "did not find expected <stream-start>" t.start
    goTo .implicitDocumentStart
    advance
    pure (some ⟨.streamStart, t.start⟩)
  | .implicitDocumentStart => some <$> documentStart true
  | .documentStart => some <$> documentStart false
  | .documentContent => some <$> documentContent
  | .documentEnd => some <$> documentEnd
  | .blockNode => some <$> node true false
  | .blockSequenceFirstEntry => some <$> blockSequenceEntry true
  | .blockSequenceEntry => some <$> blockSequenceEntry false
  | .indentlessSequenceEntry => some <$> indentlessSequenceEntry
  | .blockMappingFirstKey => some <$> blockMappingKey true
  | .blockMappingKey => some <$> blockMappingKey false
  | .blockMappingValue => some <$> blockMappingValue
  | .flowSequenceFirstEntry => some <$> flowSequenceEntry true
  | .flowSequenceEntry => some <$> flowSequenceEntry false
  | .flowSequenceEntryMappingKey => some <$> flowSequenceEntryMappingKey
  | .flowSequenceEntryMappingValue => some <$> flowSequenceEntryMappingValue
  | .flowSequenceEntryMappingEnd => some <$> flowSequenceEntryMappingEnd
  | .flowMappingFirstKey => some <$> flowMappingKey true
  | .flowMappingKey => some <$> flowMappingKey false
  | .flowMappingValue => some <$> flowMappingValue false
  | .flowMappingEmptyValue => some <$> flowMappingValue true
  | .finished => pure none

end YamlFormat

end ChatBot
