import ChatBot.Console.Options

/-!
# Help and refusal texts

What the console prints when it will not run: its help (a summary for `-h`, the full text
for `--help`), its version, and the refusal of a command line.

A refusal reads `error: <what>`, then a tip when there is one, then for most refusals the
usage line, and last a pointer to `--help`. The usage line names the options already used
when there are some (`kriess --guild <GUILD> [MESSAGES]...`), and `[OPTIONS]` otherwise.
-/

namespace ChatBot

namespace Console

/-- The program's name and version. -/
def versionText : String := "kriess 0.4.2\n"

/-- The usage line given the arguments used so far: the options used, or `[OPTIONS]` when
none was, then the messages, shown as required once some were given. -/
def usageLine (used : List Slot) : String :=
  let opts := used.filterMap fun s => match s with
    | .opt o => some o.display
    | .messages => none
  let messages := if used.contains .messages then "<MESSAGES>..." else "[MESSAGES]..."
  "Usage: kriess " ++ " ".intercalate
    ((if used.isEmpty then ["[OPTIONS]"] else opts) ++ [messages])

/-- The closing pointer to the help. -/
def helpPointer : String := "\n\nFor more information, try '--help'.\n"

/-- A tip line. -/
def tip (text : String) : String := "\n\n  tip: " ++ text

/-- The list of offered values, when there are some. -/
def offeredList (o : Opt) : String :=
  if o.offered.isEmpty then "" else "\n  [possible values: " ++ ", ".intercalate o.offered ++ "]"

/-- The text of a refusal that is an error. -/
def Refusal.message : Refusal → String
  | .unknown arg similar used =>
    "error: unexpected argument '" ++ arg ++ "' found"
      ++ (match similar with
        | some o => tip ("a similar argument exists: '--" ++ o.long ++ "'")
        | none => tip ("to pass '" ++ arg ++ "' as a value, use '-- " ++ arg ++ "'"))
      ++ "\n\n" ++ usageLine used ++ helpPointer
  | .missingValue o =>
    "error: a value is required for '" ++ o.display ++ "' but none was supplied"
      ++ offeredList o ++ helpPointer
  | .badChoice o v =>
    (if v.isEmpty then "error: a value is required for '" ++ o.display ++ "' but none was supplied"
     else "error: invalid value '" ++ v ++ "' for '" ++ o.display ++ "'")
      ++ offeredList o
      ++ (match closest? v o.offered with
        | some s => tip ("a similar value exists: '" ++ s ++ "'")
        | none => "")
      ++ helpPointer
  | .badNumber o v reason =>
    "error: invalid value '" ++ v ++ "' for '" ++ o.display ++ "': " ++ reason ++ helpPointer
  | .repeated o =>
    "error: the argument '" ++ o.display ++ "' cannot be used multiple times\n\n"
      ++ usageLine [] ++ helpPointer
  | .unexpectedValue o v used =>
    "error: unexpected value '" ++ v ++ "' for '" ++ o.display
      ++ "' found; no more were expected\n\n" ++ usageLine used ++ helpPointer
  | .help _ | .version => ""

/-! ## Help -/

/-- What an option does. -/
def Opt.about : Opt → Bool → String
  | .config, _ => "Path to configuration file (toml, yaml or json)"
  | .commandPrefix, _ => "Override the default command prefix"
  | .author, _ => "User id the console speaks as"
  | .owner, _ => "Treat the console user as a bot owner"
  | .guild, _ => "Guild id messages are sent in"
  | .channel, _ => "Channel id messages are sent in"
  | .logFormat, _ => "Log output format, overriding the configured one"
  | .verbose, _ => "Enable debug logging"
  | .help, false => "Print help (see more with '--help')"
  | .help, true => "Print help (see a summary with '-h')"
  | .version, _ => "Print version"

/-- The notes shown after what an option does: the variable it falls back to (with its
value), its default, and the values it offers. -/
def Opt.notes (envPrefix : Option String) (o : Opt) : List String :=
  match o with
  | .commandPrefix => ["[env: KRIESS_PREFIX=" ++ envPrefix.getD "" ++ "]"]
  | .author => ["[default: console]"]
  | .guild | .channel => ["[default: 1]"]
  | .logFormat => ["[possible values: " ++ ", ".intercalate o.offered ++ "]"]
  | _ => []

/-- How the help names an option: its short name first, or room for one. -/
def Opt.spec (o : Opt) : String :=
  (match o.short? with
    | some c => "-" ++ String.singleton c ++ ", "
    | none => "    ") ++ o.display

/-- `s` followed by spaces up to `width` characters. -/
def padRight (s : String) (width : Nat) : String :=
  s ++ String.ofList (List.replicate (width - s.length) ' ')

/-- What the messages do. -/
def messagesAbout : String := "Messages to dispatch instead of reading stdin"

/-- The one-line description. -/
def aboutLine : String := "Drive the Kriess command engine from the terminal"

/-- The full description. -/
def aboutText : String :=
  aboutLine ++ "\n\n" ++
  "Each line read from stdin (or each MESSAGE argument) is delivered to the\n" ++
  "dispatcher as a chat message; replies are printed to stdout.\n\n" ++
  "USAGE:\n" ++
  "  kriess                          # Read messages from stdin\n" ++
  "  kriess '!ping' '!help remind'   # Dispatch the given messages and exit\n" ++
  "  kriess --owner '!config prefix ?'"

/-- The help: in summary each entry on one line, aligned; in full each entry's text on the
lines below it, indented, with its notes after a blank line. -/
def helpText (envPrefix : Option String) (full : Bool) : String :=
  let indent := "\n          "
  let entry (spec about : String) (notes : List String) (width : Nat) : String :=
    if full then
      "  " ++ spec ++ indent ++ about
        ++ (if notes.isEmpty then "" else indent ++ indent ++ indent.intercalate notes)
    else
      "  " ++ padRight spec width ++ "  " ++ about
        ++ (if notes.isEmpty then "" else " " ++ " ".intercalate notes)
  let width := Opt.all.foldl (fun w o => max w o.spec.length) 2
  let separator := if full then "\n\n" else "\n"
  (if full then aboutText else aboutLine) ++ "\n\n"
    ++ "Usage: kriess [OPTIONS] [MESSAGES]...\n\n"
    ++ "Arguments:\n" ++ entry "[MESSAGES]..." messagesAbout [] 13 ++ "\n\n"
    ++ "Options:\n"
    ++ separator.intercalate (Opt.all.map fun o => entry o.spec (o.about full) (o.notes envPrefix) width)
    ++ "\n"

/-- What a refusal prints, whether to standard output, and the exit status. -/
def Refusal.output (envPrefix : Option String) : Refusal → String × Bool × UInt32
  | .help full => (helpText envPrefix full, true, 0)
  | .version => (versionText, true, 0)
  | r => (r.message, false, 2)

end Console

end ChatBot
