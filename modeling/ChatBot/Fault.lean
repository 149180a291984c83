/-!
# Faults

Everything that can go wrong in the library is a `Fault`, one constructor per cause. The
wording of each cause is fixed in one place, `Fault.message`; a fault also carries a
stable code, says whether the user caused it, and may carry a context line describing
what was being done. Attaching a context replaces an earlier one, and the two argument
faults never carry a context.
-/

namespace ChatBot

/-- The causes of failure. -/
inductive Fault where
  /-- A required argument is missing from the given text. -/
  | missingArgument (argument input : String)
  /-- An argument was read as a type it does not have. -/
  | typeMismatch (argument expected found : String)
  /-- A value given by the user or a configuration is not acceptable. -/
  | invalidInput (message : String) (field context : Option String)
  /-- Reading or writing a file failed. -/
  | io (message : String) (path context : Option String)
  /-- A document could not be read in its format (`JSON`, `TOML` or `YAML`). -/
  | serialization (message format : String) (context : Option String)
  /-- A command's handler failed. -/
  | handler (command message : String) (context : Option String)
deriving DecidableEq, Repr, Inhabited

namespace Fault

/-- A fault of a value, naming the offending field. -/
def invalidField (message field : String) : Fault :=
  invalidInput message (some field) none

/-- The text of a fault. -/
def message : Fault → String
  | missingArgument argument input => "Required argument " ++ argument ++ " is missing in text " ++ input
  | typeMismatch argument expected found => "Argument " ++ argument ++ " is a " ++ found ++ ", not a " ++ expected
  | invalidInput message _ _ => "Invalid input: " ++ message
  | io message _ _ => "IO error: " ++ message
  | serialization message format _ => format ++ " error: " ++ message
  | handler command message _ => "Command " ++ command ++ " failed: " ++ message

/-- The stable code of a fault. -/
def code : Fault → String
  | missingArgument .. => "KRIESS_MISSING_ARGUMENT"
  | typeMismatch .. => "KRIESS_TYPE_MISMATCH"
  | invalidInput .. => "KRIESS_INVALID_INPUT"
  | io .. => "KRIESS_IO"
  | serialization .. => "KRIESS_SERIALIZATION"
  | handler .. => "KRIESS_HANDLER"

/-- The name of a fault's cause. -/
def variant : Fault → String
  | missingArgument .. => "MissingArgument"
  | typeMismatch .. => "TypeMismatch"
  | invalidInput .. => "InvalidInput"
  | io .. => "Io"
  | serialization .. => "Serialization"
  | handler .. => "Handler"

/-- Whether the user caused the fault: a missing argument or an unacceptable value. -/
def isUserError : Fault → Bool
  | missingArgument .. | invalidInput .. => true
  | _ => false

/-- The context line, if any. -/
def context : Fault → Option String
  | missingArgument .. | typeMismatch .. => none
  | invalidInput _ _ c | io _ _ c | serialization _ _ c | handler _ _ c => c

/-- The fault with its context set to `c`; argument faults are kept as they are. -/
def withContext (f : Fault) (c : String) : Fault :=
  match f with
  | invalidInput m field _ => invalidInput m field (some c)
  | io m path _ => io m path (some c)
  | serialization m format _ => serialization m format (some c)
  | handler command m _ => handler command m (some c)
  | other => other

end Fault

end ChatBot
