import ChatBot.Config.Basic
import ChatBot.Format.Json
import ChatBot.Format.Toml
import ChatBot.Format.Yaml
import ChatBot.Text.Words

/-!
# Loading a configuration

A configuration is loaded from sources applied in order over the defaults:

* `defaults` starts over from the defaults;
* a variable map sets what its variables name: `KRIESS_PREFIX` the prefix,
  `KRIESS_OWNERS` owners (comma separated, trimmed, empty ones dropped, appended when new),
  `KRIESS_BOT_ID` the bot id and `KRIESS_LOG` the log level; other names are ignored;
* a file holds one layer, read as TOML when its name ends in `.toml`, as YAML for `.yaml`
  and `.yml`, and as JSON otherwise. A file that does not exist sets nothing.

A configuration file holds one layer: a record `ConfigOverlay` whose fields are all
optional — `default_prefix`, `owners`, `bot_user_id`, `ignore_bots` and a record `logging`
with `level` and `format`. Every format reads it against the same shape (`Overlay.shape`).

The result is validated. A file that cannot be read is an IO fault; a file that cannot be
parsed is a serialization fault whose context names the file.
-/

namespace ChatBot

open Text

namespace Overlay

/-- The shape of the logging part of a layer. -/
def loggingShape : Shape :=
  .record "LoggingOverlay" [("level", .optional .text), ("format", .optional .text)] true

/-- The shape of a configuration layer. -/
def shape : Shape :=
  .record "ConfigOverlay"
    [("default_prefix", .optional .text), ("owners", .list .text), ("bot_user_id", .optional .text),
     ("ignore_bots", .optional .flag), ("logging", loggingShape)] true

/-- The optional text of a field. -/
def optionalText (d : Datum) (name : String) : Option String :=
  ((d.field? name).bind Datum.asOptional?).bind Datum.asText?

/-- The layer a datum of `shape` describes. -/
def ofDatum (d : Datum) : Overlay :=
  let logging := (d.field? "logging").getD (.record [])
  { defaultPrefix := optionalText d "default_prefix"
    owners := (((d.field? "owners").map Datum.asList).getD []).filterMap Datum.asText?
    botUserId := optionalText d "bot_user_id"
    ignoreBots := ((d.field? "ignore_bots").bind Datum.asOptional?).bind Datum.asFlag?
    logging := { level := optionalText logging "level", format := optionalText logging "format" } }

end Overlay

/-- What is found at a file's path: nothing, something that cannot be read as a file (a
directory, a file the process may not read), with the system's description of the error, or
the file's bytes. -/
inductive FileState where
  | missing
  | unreadable (reason : String)
  | bytes (content : ByteArray)

/-- One source of configuration. -/
inductive Source where
  | defaults
  | vars (entries : List (String × String))
  | file (path : String) (state : FileState)

/-- A reader of one document format: its name in faults and how it reads a shape. -/
structure FileFormat where
  name : String
  parse : Shape → String → Except String Datum

/-- The extension of the last component of a path: the text after its last dot, none when
it has no dot or its only dot starts it. -/
def extensionOf (path : String) : Option String :=
  let file := (path.splitOn "/").getLast?.getD path
  match file.splitOn "." with
  | [] | [_] => none
  | pieces =>
    if file.startsWith "." && pieces.length = 2 then none
    else pieces.getLast?

/-- The configuration with one variable applied. -/
def applyVariable (c : Config) : String × String → Config
  | ("KRIESS_PREFIX", v) => { c with defaultPrefix := v }
  | ("KRIESS_OWNERS", v) =>
    { c with owners := mergeOwners c.owners ((v.splitOn ",").map trim |>.filter (· ≠ "")) }
  | ("KRIESS_BOT_ID", v) => { c with botUserId := some v }
  | ("KRIESS_LOG", v) => { c with logging := { c.logging with level := v } }
  | _ => c

/-- The reader a file's name selects: TOML for `.toml`, YAML for `.yaml` and `.yml`, JSON
otherwise. -/
def formatFor (toml yaml json : FileFormat) (path : String) : FileFormat :=
  match extensionOf path with
  | some "toml" => toml
  | some "yaml" | some "yml" => yaml
  | _ => json

/-- The layer held by a file, given the readers of TOML, YAML and JSON. -/
def readLayer (toml yaml json : FileFormat) (path : String) : FileState → Except Fault Overlay
  | .missing => .ok {}
  | .unreadable reason => .error (.io ("Failed to read config file: " ++ reason) (some path) none)
  | .bytes content =>
    match String.fromUTF8? content with
    | none => .error (.io "Failed to read config file: stream did not contain valid UTF-8" (some path) none)
    | some text =>
      let format := formatFor toml yaml json path
      match format.parse Overlay.shape text with
      | .ok d => .ok (Overlay.ofDatum d)
      | .error e =>
        .error ((Fault.serialization e format.name none).withContext
          ("Reading configuration from '" ++ path ++ "'"))

/-- Applies the sources in order over the defaults, then validates the result. -/
def loadConfig (toml yaml json : FileFormat) (sources : List Source) : Except Fault Config := do
  let mut c : Config := {}
  for s in sources do
    match s with
    | .defaults => c := {}
    | .vars entries => c := entries.foldl applyVariable c
    | .file path state => c := c.apply (← readLayer toml yaml json path state)
  c.validate
  pure c

/-- The JSON reader. -/
def jsonFormat : FileFormat :=
  ⟨"JSON", JsonFormat.parse⟩

/-- The TOML reader. -/
def tomlFormat : FileFormat :=
  ⟨"TOML", TomlFormat.parse⟩

/-- The YAML reader. -/
def yamlFormat : FileFormat :=
  ⟨"YAML", YamlFormat.parse⟩

end ChatBot
