import ChatBot.Console.Session

/-!
# The console program

Gathers what a console session needs from the process (its arguments, the `KRIESS_*`
variables, the user's configuration directory, the configuration file and standard input),
runs the session, prints what it printed and exits with its status.
-/

namespace ChatBot.Console

/-- The environment variables the configuration reads. -/
def configVariables : List String :=
  ["KRIESS_PREFIX", "KRIESS_OWNERS", "KRIESS_BOT_ID", "KRIESS_LOG"]

/-- The user's configuration directory: `XDG_CONFIG_HOME` when it is an absolute path,
else `.config` in the home directory, else the working directory. -/
def userConfigHome : IO String := do
  match ← IO.getEnv "XDG_CONFIG_HOME" with
  | some d => if d.startsWith "/" then return d else pure ()
  | none => pure ()
  match ← IO.getEnv "HOME" with
  | some h => if h.isEmpty then pure "." else pure (h ++ "/.config")
  | none => pure "."

/-- The system's description of an error and its number, as `Is a directory (os error 21)`. -/
def systemErrorText : IO.Error → String
  | .permissionDenied _ code details | .inappropriateType _ code details
  | .resourceExhausted _ code details | .invalidArgument _ code details
  | .noSuchThing _ code details | .otherError code details
  | .resourceBusy code details | .hardwareFault code details =>
    details ++ " (os error " ++ toString code ++ ")"
  | e => toString e

/-- What is at a path: its bytes, nothing, or something that cannot be read as a file. -/
def fileAt (path : String) : IO FileState := do
  try
    pure (.bytes (← IO.FS.readBinFile path))
  catch e =>
    match e with
    | .noFileOrDirectory .. => pure .missing
    | e => pure (.unreadable (systemErrorText e))

/-- Reads standard input to its end. -/
partial def readInput (stream : IO.FS.Stream) (acc : String) : IO String := do
  let line ← stream.getLine
  if line.isEmpty then pure acc else readInput stream (acc ++ line)

end ChatBot.Console

open ChatBot ChatBot.Console in
/-- Runs the console on the process's arguments. -/
def main (args : List String) : IO UInt32 := do
  let envVars ← configVariables.filterMapM fun k => do
    pure ((← IO.getEnv k).map fun v => (k, v))
  let configHome ← userConfigHome
  let (file, input) ← match readOptions args (envVars.lookup "KRIESS_PREFIX") with
    | .ok o =>
      let path := configPath configHome o
      let state ← fileAt path
      let input ← if o.messages.isEmpty then readInput (← IO.getStdin) "" else pure ""
      pure ((fun p => if p == path then state else FileState.missing), input)
    | .error _ => pure ((fun _ => FileState.missing), "")
  let outcome := runConsole { envVars, configHome, file } args input
  IO.print outcome.stdout
  IO.eprint outcome.stderr
  (← IO.getStdout).flush
  (← IO.getStderr).flush
  pure outcome.status
