import ChatBot.Text.Lower

/-!
# Console options

The command line of the console: messages to deliver, and options that choose the
configuration file, the prefix, who speaks, where, and how logs look.

```
kriess [OPTIONS] [MESSAGES]...
  -c, --config <CONFIG>   --prefix <PREFIX>   --author <AUTHOR>   --owner
  --guild <GUILD>   --channel <CHANNEL>   --log-format <LOG_FORMAT>   -v, --verbose
  -h, --help   -V, --version
```

Arguments are read left to right, one step each:

* after `--` every argument is a message;
* `--name=value` gives an option its value at once; `--name` alone waits for the next
  argument that does not start with `-` (a lone `-` is a value);
* after one dash, letters are short flags; a short option takes the rest of its argument
  (after one optional `=`) as its value, or waits like a long one;
* anything else is a message.

An option or message is *taken up* only when the next argument is taken up or the line
ends, so a later unknown argument is reported before an earlier bad value, while a known
option first takes up what waits. Taking up an option refuses it when it waits without a
value, when it was given before, or when its value does not check (`--guild` and
`--channel` are unsigned 64-bit numbers, `--log-format` is `pretty`, `compact` or `json`,
and `--config` is not empty). A flag given a value is refused. `--prefix` falls back to the
`KRIESS_PREFIX` variable. `--help` and `--version` stop reading.
-/

namespace ChatBot

namespace Console

open Text

/-- How log lines are written. -/
inductive LogFormat where
  | pretty
  | compact
  | json
deriving DecidableEq, Repr, Inhabited

/-- The name of a log format. -/
def LogFormat.name : LogFormat → String
  | .pretty => "pretty"
  | .compact => "compact"
  | .json => "json"

/-- The log format a configuration names: `json` and `compact` in any ASCII case, and
pretty for anything else. -/
def LogFormat.ofConfig (name : String) : LogFormat :=
  match lowerAscii name with
  | "json" => .json
  | "compact" => .compact
  | _ => .pretty

/-- The log formats in the order they are offered. -/
def LogFormat.all : List LogFormat := [.pretty, .compact, .json]

/-- The log format with a name, exactly as written. -/
def LogFormat.ofName? (name : String) : Option LogFormat :=
  LogFormat.all.find? (·.name == name)

/-- What the command line asks for. -/
structure Options where
  messages : List String := []
  config : Option String := none
  /-- The `--prefix` option, or else the `KRIESS_PREFIX` variable. -/
  commandPrefix : Option String := none
  author : String := "console"
  owner : Bool := false
  guild : UInt64 := 1
  channel : UInt64 := 1
  logFormat : Option LogFormat := none
  verbose : Bool := false
deriving Repr, Inhabited

/-- The named options. -/
inductive Opt where
  | config
  | commandPrefix
  | author
  | owner
  | guild
  | channel
  | logFormat
  | verbose
  | help
  | version
deriving DecidableEq, Repr, Inhabited

namespace Opt

/-- All named options, in the order they are declared. -/
def all : List Opt :=
  [config, commandPrefix, author, owner, guild, channel, logFormat, verbose, help, version]

/-- The long name, after `--`. -/
def long : Opt → String
  | config => "config"
  | commandPrefix => "prefix"
  | author => "author"
  | owner => "owner"
  | guild => "guild"
  | channel => "channel"
  | logFormat => "log-format"
  | verbose => "verbose"
  | help => "help"
  | version => "version"

/-- The short name, after `-`. -/
def short? : Opt → Option Char
  | config => some 'c'
  | verbose => some 'v'
  | help => some 'h'
  | version => some 'V'
  | _ => none

/-- The name of the value an option takes; none for flags. -/
def valueName? : Opt → Option String
  | config => some "CONFIG"
  | commandPrefix => some "PREFIX"
  | author => some "AUTHOR"
  | guild => some "GUILD"
  | channel => some "CHANNEL"
  | logFormat => some "LOG_FORMAT"
  | _ => none

/-- Whether the option takes a value. -/
def takesValue (o : Opt) : Bool := o.valueName?.isSome

/-- How messages name an option: `--guild <GUILD>`, `--owner`. -/
def display (o : Opt) : String :=
  "--" ++ o.long ++ (match o.valueName? with
    | some v => " <" ++ v ++ ">"
    | none => "")

/-- The option with a long name. -/
def ofLong? (name : String) : Option Opt := all.find? (·.long == name)

/-- The option with a short name. -/
def ofShort? (c : Char) : Option Opt := all.find? (·.short? == some c)

/-- The values the option offers by name, in order. -/
def offered : Opt → List String
  | logFormat => LogFormat.all.map LogFormat.name
  | _ => []

end Opt

/-- An unsigned 64-bit number in decimal, with an optional leading `+`, or why it is not
one: digits are read left to right, and the first that is not a digit or that makes the
number too large gives the reason. -/
def readCount (s : String) : Except String UInt64 :=
  if s.isEmpty then .error "cannot parse integer from empty string" else
  let digits := if s.startsWith "+" && s.length > 1 then (s.drop 1).toString else s
  let step (acc : Except String Nat) (c : Char) : Except String Nat := do
    let n ← acc
    if !c.isDigit then throw "invalid digit found in string"
    let n := n * 10 + (c.toNat - 48)
    if n ≥ Nat.pow 2 64 then throw "number too large to fit in target type"
    pure n
  (digits.toList.foldl step (.ok 0)).map Nat.toUInt64

/-! ## Similar names -/

/-- Marks which characters of `a` match a character of `b` at most `range` places away,
each character of `b` matched once, leftmost first; returns the marks of both. -/
def jaroMatches (a b : List Char) (range : Nat) : List Bool × List Bool :=
  a.zipIdx.foldl (fun (ma, mb) (c, i) =>
    let lo := i - range
    let hi := min b.length (i + range + 1)
    match (List.range hi).find? (fun j => lo ≤ j && b[j]? == some c && mb[j]? == some false) with
    | some j => (ma ++ [true], mb.set j true)
    | none => (ma ++ [false], mb)) ([], List.replicate b.length false)

/-- The Jaro similarity of two names: the mean of the shares of matched characters in
each name and of matched characters that are not transposed. -/
def jaro (a b : String) : Float :=
  let xs := a.toList
  let ys := b.toList
  if xs.isEmpty && ys.isEmpty then 1.0
  else if xs.isEmpty || ys.isEmpty then 0.0
  else
    let range := max xs.length ys.length / 2 - 1
    let (ma, mb) := jaroMatches xs ys range
    let left := (xs.zip ma).filterMap fun (c, m) => if m then some c else none
    let right := (ys.zip mb).filterMap fun (c, m) => if m then some c else none
    let m := left.length
    if m = 0 then 0.0
    else
      let t := ((left.zip right).filter fun (x, y) => x != y).length / 2
      let mf := m.toFloat
      (mf / xs.length.toFloat + mf / ys.length.toFloat + (m - t).toFloat / mf) / 3.0

/-- The candidate most similar to `name` among those more than 0.7 similar; on a tie the
later candidate. -/
def closest? (name : String) (candidates : List String) : Option String :=
  let best := candidates.foldl (fun (best : Option (String × Float)) c =>
    let score := jaro name c
    if score > 0.7 then
      match best with
      | some (_, s) => if score ≥ s then some (c, score) else best
      | none => some (c, score)
    else best) none
  best.map (·.1)

/-! ## Refusals -/

/-- Where an argument stands in the usage line: an option or the messages. -/
inductive Slot where
  | opt (o : Opt)
  | messages
deriving DecidableEq, Repr, Inhabited

/-- An argument the command line refuses, or a request for help or the version. -/
inductive Refusal where
  /-- An argument that names no option, with the most similar long option and the
  arguments used before it. -/
  | unknown (arg : String) (similar : Option Opt) (used : List Slot)
  /-- An option without a value. -/
  | missingValue (o : Opt)
  /-- A value that is not among the offered names. -/
  | badChoice (o : Opt) (value : String)
  /-- A value that is not a number, with the reason. -/
  | badNumber (o : Opt) (value : String) (reason : String)
  /-- An option given twice. -/
  | repeated (o : Opt)
  /-- A value given to a flag, with the arguments used so far. -/
  | unexpectedValue (o : Opt) (value : String) (used : List Slot)
  /-- A request for help, in full or in summary. -/
  | help (full : Bool)
  | version
deriving Repr, Inhabited

/-- The kind of a refusal, by the name command lines of this style give it. -/
def Refusal.kind : Refusal → String
  | .unknown .. => "UnknownArgument"
  | .missingValue .. | .badChoice .. => "InvalidValue"
  | .badNumber .. => "ValueValidation"
  | .repeated .. => "ArgumentConflict"
  | .unexpectedValue .. => "TooManyValues"
  | .help .. => "DisplayHelp"
  | .version => "DisplayVersion"

/-! ## Reading the arguments -/

/-- An option or the messages, waiting to be taken up with the values seen so far. -/
structure Pending where
  slot : Slot
  values : List String
deriving Repr, Inhabited

/-- What has been read so far. -/
structure Reading where
  /-- The options taken up, with their values (`true` for flags), in order. -/
  set : List (Opt × String) := []
  messages : List String := []
  pending : Option Pending := none
  /-- Whether `--` has been seen. -/
  trailing : Bool := false
  /-- The options and messages taken up, in the order first taken up. -/
  used : List Slot := []
deriving Repr, Inhabited

/-- Marks a slot as used; a slot used before keeps its place. -/
def Reading.use (r : Reading) (s : Slot) : Reading :=
  if r.used.contains s then r else { r with used := r.used ++ [s] }

/-- Checks an option's value. -/
def checkValue (o : Opt) (v : String) : Option Refusal :=
  match o with
  | .guild | .channel =>
    match readCount v with
    | .ok _ => none
    | .error reason => some (.badNumber o v reason)
  | .logFormat => if o.offered.contains v then none else some (.badChoice o v)
  | .config => if v.isEmpty then some (.missingValue o) else none
  | _ => none

/-- Takes up an option with its values, or messages: the reading after it and the refusal,
if any. An option given before is refused and forgotten; an option with a bad value is
refused but counts as used. -/
def take (r : Reading) : Slot → List String → Reading × Option Refusal
  | .messages, values => ({ r.use .messages with messages := r.messages ++ values }, none)
  | .opt o, values =>
    if o.takesValue && values.isEmpty then (r, some (.missingValue o))
    else if r.set.any (·.1 == o) then
      ({ r with set := r.set.filter (·.1 != o), used := r.used.erase (.opt o) },
        some (.repeated o))
    else
      let value := values.headD "true"
      ({ r.use (.opt o) with set := r.set ++ [(o, value)] }, checkValue o value)

/-- Takes up what waits, if anything. -/
def resolve (r : Reading) : Except Refusal Reading :=
  match r.pending with
  | none => .ok r
  | some p =>
    match take { r with pending := none } p.slot p.values with
    | (r, none) => .ok r
    | (_, some e) => .error e

/-- Takes up what waits, ignoring a refusal (as before reporting an unknown argument). -/
def settle (r : Reading) : Reading :=
  match r.pending with
  | none => r
  | some p => (take { r with pending := none } p.slot p.values).1

/-- Takes up what waits, then an option with its values; `full` tells `--help` from `-h`. -/
def react (r : Reading) (o : Opt) (values : List String) (full : Bool) :
    Except Refusal Reading := do
  let r ← resolve r
  if o == .help then throw (.help full)
  if o == .version then throw .version
  match take r (.opt o) values with
  | (r, none) => pure r
  | (_, some e) => throw e

/-- Takes up what waits, then waits for a value of `o`. -/
def await (r : Reading) (o : Opt) : Except Refusal Reading := do
  let r ← resolve r
  pure { r with pending := some ⟨.opt o, []⟩ }

/-- Takes up what waits, then waits to take up a message. -/
def addMessage (r : Reading) (m : String) : Except Refusal Reading := do
  let r ← resolve r
  pure { r with pending := some ⟨.messages, [m]⟩ }

/-- An unknown long option: the most similar long name is suggested and counts as used. -/
def unknownLong (r : Reading) (name : String) : Refusal :=
  let r := settle r
  let similar := (closest? name (Opt.all.map Opt.long)).bind Opt.ofLong?
  let used := match similar with
    | some o => (r.use (.opt o)).used
    | none => r.used
  .unknown ("--" ++ name) similar used

/-- Reads `--name` or `--name=value`. -/
def readLong (r : Reading) (body : String) : Except Refusal Reading :=
  let (name, attached) := match body.splitOn "=" with
    | n :: v :: rest => (n, some ("=".intercalate (v :: rest)))
    | _ => (body, none)
  match Opt.ofLong? name with
  | none => .error (unknownLong r name)
  | some o =>
    match o.takesValue, attached with
    | true, some v => react r o [v] true
    | true, none => await r o
    | false, some v =>
      let used := (r.use (.opt o)).used
      .error (.unexpectedValue o v used)
    | false, none => react r o [] true

/-- Reads a cluster of short flags after `-`; a short option takes the rest of the
cluster, after one optional `=`, as its value, or waits for one. -/
def readShort (r : Reading) : List Char → Except Refusal Reading
  | [] => .ok r
  | c :: rest =>
    match Opt.ofShort? c with
    | none => .error (.unknown ("-" ++ String.singleton c) none [])
    | some o =>
      if o.takesValue then
        match rest with
        | [] => await r o
        | '=' :: v => react r o [String.ofList v] false
        | v => react r o [String.ofList v] false
      else do
        let r ← react r o [] false
        readShort r rest

/-- Reads one argument. -/
def readArg (r : Reading) (arg : String) : Except Refusal Reading :=
  if r.trailing then addMessage r arg
  else if arg == "--" then .ok { r with trailing := true }
  else if arg.startsWith "--" then readLong r (arg.drop 2).toString
  else if arg.startsWith "-" && arg.length > 1 then readShort r (arg.drop 1).toString.toList
  else
    match r.pending with
    | some ⟨.opt o, []⟩ => .ok { r with pending := some ⟨.opt o, [arg]⟩ }
    | _ => addMessage r arg

/-- Reads the command line (without the program name); `envPrefix` is the value of the
`KRIESS_PREFIX` variable, if set. -/
def readOptions (args : List String) (envPrefix : Option String) : Except Refusal Options := do
  let r ← args.foldlM readArg {}
  let r ← resolve r
  let value (o : Opt) : Option String := r.set.lookup o
  let number (o : Opt) : UInt64 := match value o with
    | some v => (readCount v).toOption.getD 1
    | none => 1
  pure { messages := r.messages, config := value .config,
         commandPrefix := match value .commandPrefix with
           | some p => some p
           | none => envPrefix,
         author := (value .author).getD "console", owner := (value .owner).isSome,
         guild := number .guild, channel := number .channel,
         logFormat := (value .logFormat).bind LogFormat.ofName?,
         verbose := (value .verbose).isSome }

end Console

end ChatBot
