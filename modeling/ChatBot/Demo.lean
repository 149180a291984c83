import ChatBot.Dispatch.Dispatcher

/-!
# The demonstration bot

Six commands that show the library at work: `help` (alias `h`), `ping`, `echo`, `remind`
(alias `remindme`), the owner-only `purge`, and `config` with its owner-only child
`config prefix`. Their commands run the jobs below (`Job`), whose handlers keep no memory of
their own and leave the registry alone, so they fit a dispatcher with any memory type and
any keys.
-/

namespace ChatBot

namespace Demo

variable {σ η : Type}

/-- A number of seconds as days, hours, minutes and seconds, leaving out the parts that are
zero: `5400` is `1h 30m`; no time at all is `0s`. -/
def formatDuration (seconds : Nat) : String :=
  if seconds = 0 then "0s" else
  let units : List (String × Nat) := [("d", 86400), ("h", 3600), ("m", 60), ("s", 1)]
  let (parts, _) := units.foldl
    (fun (parts, rest) (unit, size) =>
      if rest ≥ size then (parts ++ [toString (rest / size) ++ unit], rest % size)
      else (parts, rest))
    ([], seconds)
  " ".intercalate parts

/-- A command's usage and description, as help shows them. -/
def describe (c : Command Unit) : String :=
  c.usage ++ ": " ++ c.description

/-- Shows one command's usage with its listed children, or lists the listed commands with
their categories. -/
def help : Handler σ η where
  run _ := do
    let args ← Action.arguments
    match ← Action.lift (args.command "command") with
    | some c =>
      Action.reply ("\n".intercalate
        (describe c :: (c.children.filter (·.listed)).map fun d => "  " ++ describe d))
    | none =>
      let registry ← Action.registry
      Action.reply ("Commands: " ++ ", ".intercalate (registry.visible.map fun c =>
        c.name ++ " (" ++ c.category.getD "misc" ++ ")"))

/-- Answers `pong`. -/
def ping : Handler σ η where
  run _ := Action.reply "pong"

/-- Repeats the message text. -/
def echo : Handler σ η where
  run _ := do
    let args ← Action.arguments
    Action.reply ((← Action.lift (args.text "message")).getD "")

/-- Confirms a reminder for a user after a delay (five minutes unless given), with an
optional reason. -/
def remind : Handler σ η where
  run _ := do
    let args ← Action.arguments
    match ← Action.lift (args.entityOf "user" .user) with
    | none => Action.replyError "Who should I remind?"
    | some user =>
      let after := (← Action.lift (args.duration "duration")).getD 300
      let reason ← Action.lift (args.text "reason")
      let who := user.name.getD ("<@" ++ toString user.id.toNat ++ ">")
      let base := "Reminding " ++ who ++ " in " ++ formatDuration after.toNat
      Action.reply (match reason with
        | some r => base ++ ": " ++ r
        | none => base)

/-- Reports deleting a positive number of messages, optionally from given users; silent
with `!silent`. -/
def purge : Handler σ η where
  run _ := do
    let args ← Action.arguments
    let count := (← Action.lift (args.digit "count")).getD 0
    if count ≤ 0 then Action.replyError "Count must be positive" else
    if (← Action.lift (args.flag "silent")).getD false then pure () else
    let users := (args.readAll "users" Value.asEntity?).getD []
    let base := "Deleted " ++ toString count.toInt ++ " messages"
    Action.reply (if users.isEmpty then base
      else base ++ " from " ++ ", ".intercalate (users.map fun u => toString u.id.toNat))

/-- Shows the guild's prefix override. -/
def showConfig : Handler σ η where
  run e :=
    Action.reply ("Guild " ++ toString e.settings.guild.toNat ++ " prefix: "
      ++ e.settings.customPrefix.getD "(default)")

/-- Sets the guild's prefix override. -/
def setPrefix : Handler σ η where
  run e := do
    let args ← Action.arguments
    match ← Action.lift (args.text "value") with
    | none => Action.replyError "Missing prefix"
    | some p =>
      Action.editSettings e.message.guild fun s => { s with customPrefix := some p }
      Action.reply ("Prefix set to `" ++ p ++ "`")

/-- What the demonstration commands run. -/
inductive Job where
  | help
  | ping
  | echo
  | remind
  | purge
  | showConfig
  | setPrefix
deriving DecidableEq, Repr

/-- The handler of each job. -/
def handler : Job → Handler σ η
  | .help => help
  | .ping => ping
  | .echo => echo
  | .remind => remind
  | .purge => purge
  | .showConfig => showConfig
  | .setPrefix => setPrefix

/-- The owner-only child of `config` that sets the guild's prefix. -/
def configPrefix : Spec Job :=
  { name := "prefix", arguments := "<value:word>",
    description := "Change the command prefix for this guild", ownerOnly := true,
    action := some .setPrefix }

/-- The demonstration commands, in the order they are registered. -/
def commands : List (Spec Job) :=
  [ { name := "help", aliases := ["h"], arguments := "[command]",
      description := "List commands or show one command's usage", category := some "general",
      action := some .help },
    { name := "ping", description := "Check that the bot is alive", category := some "general",
      action := some .ping },
    { name := "echo", arguments := "<message:text>", description := "Repeat a message",
      category := some "general", action := some .echo },
    { name := "remind", aliases := ["remindme"], arguments := "<user> [duration] [reason:text]",
      description := "Schedule a reminder for a user", category := some "utility",
      action := some .remind },
    { name := "purge", arguments := "<count:digit> [users:user...] [!silent]",
      description := "Delete recent messages", category := some "moderation", ownerOnly := true,
      action := some .purge },
    { name := "config", description := "Show or change guild settings", category := some "admin",
      action := some .showConfig, children := [configPrefix] } ]

end Demo

end ChatBot
