import ChatBot.Argument.Signature
import ChatBot.Format.Json
import ChatBot.Fault

/-!
# Stored signatures

A signature is stored as the list of its parameters, in a data format that writes such a
list as text and reads it back. Reading a stored signature reads the list and builds the
signature from it, so a stored signature is normalized when it is read back, as one built
from parameters is.

The library stores signatures as JSON: a list of objects with the fields `name`, `kind` (a
kind's tag), `required` and `is_array`, all four required.
-/

namespace ChatBot

/-- A data format that lists of parameters are stored in: how a list is written as text,
how a text is read back as a list or a failure, and the format's name in faults. -/
structure ParameterFormat where
  name : String
  write : List Parameter → String
  read : String → Except String (List Parameter)

/-- The format reads back every list of parameters it writes. -/
def ParameterFormat.ReadsBack (format : ParameterFormat) : Prop :=
  ∀ ps, format.read (format.write ps) = .ok ps

namespace Signature

/-- Reads a signature stored in `format`: the parameters read, normalized; a text the format
cannot read is a serialization fault under the format's name. -/
def readStored (format : ParameterFormat) (text : String) : Except Fault Signature :=
  match format.read text with
  | .ok ps => .ok (ofParameters ps)
  | .error e => .error (.serialization e format.name none)

/-- The text a signature is stored as in `format`: its parameters, written. -/
def writeStored (format : ParameterFormat) (g : Signature) : String :=
  format.write g.params

/-- Every kind, in the order stored kinds are listed. -/
def storedKinds : List Kind :=
  Kind.named ++ [Kind.unknown]

/-- The shape of a stored signature. -/
def storedShape : Shape :=
  .list (.record "ArgumentDefinition"
    [("name", .text), ("kind", .choice "ArgumentKind" (storedKinds.map Kind.tag)),
     ("required", .flag), ("is_array", .flag)] false)

/-- The parameter a stored record describes. -/
def parameterOf (d : Datum) : Parameter :=
  { name := ((d.field? "name").bind Datum.asText?).getD ""
    kind := match d.field? "kind" with
      | some (.choice tag) => (storedKinds.find? (·.tag == tag)).getD Kind.unknown
      | _ => Kind.unknown
    required := ((d.field? "required").bind Datum.asFlag?).getD false
    repeated := ((d.field? "is_array").bind Datum.asFlag?).getD false }

/-- The compact JSON text of a parameter, with its fields in the order `name`, `kind`,
`required`, `is_array`. -/
def entryJson (p : Parameter) : String :=
  "\x7b\"name\":" ++ JsonFormat.quote p.name ++ ",\"kind\":\"" ++ p.kind.tag
    ++ "\",\"required\":" ++ toString p.required ++ ",\"is_array\":" ++ toString p.repeated
    ++ "\x7d"

/-- Lists of parameters as compact JSON. -/
def storedJson : ParameterFormat where
  name := "JSON"
  write ps := "[" ++ ",".intercalate (ps.map entryJson) ++ "]"
  read text := (JsonFormat.parse storedShape text).map fun d => d.asList.map parameterOf

/-- Reads a signature stored as JSON; a malformed text is a `JSON` serialization fault. -/
def ofJsonText (text : String) : Except Fault Signature :=
  readStored storedJson text

/-- The compact JSON text of a signature. -/
def toJsonText (g : Signature) : String :=
  writeStored storedJson g

end Signature

end ChatBot
