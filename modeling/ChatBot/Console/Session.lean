import ChatBot.Console.Help
import ChatBot.Config.Loader
import ChatBot.Demo

/-!
# A console session

One run of the console, as a function of what it is given: the arguments, standard input,
the environment and the files it can read. It answers with what it prints and its exit
status.

1. The command line is read; a refusal prints its text (status 2), help and the version
   print theirs (status 0).
2. The configuration is loaded from the defaults, then the file named by `--config` (or
   `kriess/config.toml` in the user's configuration directory), then the environment. A
   failure prints `Error: failed to load configuration` and its cause, indented (status 1).
3. `--prefix` sets the prefix and `--owner` makes the author an owner; the configuration is
   checked again, and a failure prints `Error:` and the fault (status 1).
4. The demonstration bot then receives each message argument, or, without any, each line
   of standard input that is not blank. A reply prints `#<channel> <content>`; a failure
   prints `✗ <message>`, after the command's path when it is not the user's error.
-/

namespace ChatBot

namespace Console

open Text

/-- What the console finds around it. -/
structure Surroundings where
  /-- The environment variables. -/
  envVars : List (String × String) := []
  /-- The user's configuration directory. -/
  configHome : String
  /-- What is at each path. -/
  file : String → FileState

/-- What a run prints, and how it ends. -/
structure Outcome where
  status : UInt32
  stdout : String := ""
  stderr : String := ""
deriving Repr, Inhabited

/-- The cause of a failure as a report shows it: every line after the first indented. -/
def indentCause (text : String) : String :=
  "    " ++ "\n    ".intercalate (text.splitOn "\n")

/-- The lines of standard input: cut at line feeds, with a carriage return just before a
feed dropped; text after the last feed is a last line when it is not empty. -/
def inputLines (input : String) : List String :=
  let pieces := input.splitOn "\n"
  let ended := pieces.dropLast.map fun l => if l.endsWith "\r" then (l.dropEnd 1).toString else l
  match pieces.getLast? with
  | some last => if last.isEmpty then ended else ended ++ [last]
  | none => ended

/-- How a failure of a command prints. -/
def failureLine (path : Path) (f : Fault) : String :=
  if f.isUserError then "✗ " ++ f.message ++ "\n"
  else "✗ " ++ path.render ++ ": " ++ f.message ++ "\n"

/-- The demonstration bot for a configuration. -/
def consoleBot (c : Config) : Dispatcher Unit Demo.Job :=
  Demo.commands.foldl (fun d s => (d.addCommand s.build).1) (Dispatcher.ofConfig c Demo.handler ())

/-- Delivers messages in order, collecting what is printed. -/
def deliverAll (o : Options) (bot : Dispatcher Unit Demo.Job) (contents : List String) :
    String × String :=
  let (_, out, err) := contents.foldl (fun (bot, out, err) content =>
    let (bot, d) := bot.onMessage
      { guild := o.guild, channel := o.channel, author := o.author, content := content }
    (bot,
      out ++ String.join (d.replies.map fun r =>
        "#" ++ toString r.channel.toNat ++ " " ++ r.content ++ "\n"),
      err ++ String.join (d.failures.map fun (p, f) => failureLine p f)))
    (bot, "", "")
  (out, err)

/-- The configuration file a run reads: the one `--config` names, or `kriess/config.toml`
in the user's configuration directory. -/
def configPath (configHome : String) (o : Options) : String :=
  o.config.getD (configHome ++ "/kriess/config.toml")

/-- Runs the console with `args` (without the program name) and standard input `input`. -/
def runConsole (s : Surroundings) (args : List String) (input : String) : Outcome :=
  let envPrefix := s.envVars.lookup "KRIESS_PREFIX"
  match readOptions args envPrefix with
  | .error r =>
    let (text, toStdout, status) := r.output envPrefix
    if toStdout then { status, stdout := text } else { status, stderr := text }
  | .ok o =>
    let path := configPath s.configHome o
    let sources := [.defaults, .file path (s.file path), .vars s.envVars]
    match loadConfig tomlFormat yamlFormat jsonFormat sources with
    | .error f =>
      { status := 1, stderr := "Error: failed to load configuration\n\nCaused by:\n"
          ++ indentCause f.message ++ "\n" }
    | .ok c =>
      let c := match o.commandPrefix with
        | some p => { c with defaultPrefix := p }
        | none => c
      let c := if o.owner && !c.owners.contains o.author then
        { c with owners := c.owners ++ [o.author] } else c
      match c.validate with
      | .error f => { status := 1, stderr := "Error: " ++ f.message ++ "\n" }
      | .ok () =>
        let contents := if o.messages.isEmpty then
          (inputLines input).filter fun l => !(trim l).isEmpty
        else o.messages
        let (out, err) := deliverAll o (consoleBot c) contents
        { status := 0, stdout := out, stderr := err }

end Console

end ChatBot
