import ChatBot.Argument.Mention
import ChatBot.Command.Basic

/-!
# Argument values

What a parameter reads from a message: a signed number, a duration in seconds, a piece of
text or a single word, a flag, a resolved entity, a command of the tree, or a list of
these for a repeated parameter.
-/

namespace ChatBot

/-- A value read for one parameter. -/
inductive Value where
  | digit (n : Int64)
  | duration (seconds : UInt64)
  | text (s : String)
  | word (s : String)
  | flag (b : Bool)
  | entity (e : Entity)
  | command (c : Command Unit)
  | list (items : List Value)

namespace Value

/-- The name of the value's type as shown in type errors: the constructor, except that an
entity reports its kind and a list reports `array`. -/
def typeName : Value → String
  | digit _ => "digit"
  | duration _ => "duration"
  | text _ => "text"
  | word _ => "word"
  | flag _ => "flag"
  | entity e => e.kind.tag
  | command _ => "command"
  | list _ => "array"

/-- The value seen as a list: a list's items, or the value alone. -/
def items : Value → List Value
  | list vs => vs
  | v => [v]

/-- The number, if the value is one. -/
def asDigit? : Value → Option Int64
  | digit n => some n
  | _ => none

/-- The seconds, if the value is a duration. -/
def asDuration? : Value → Option UInt64
  | duration s => some s
  | _ => none

/-- The string, if the value is text or a single word. -/
def asString? : Value → Option String
  | text s | word s => some s
  | _ => none

/-- The truth value, if the value is a flag. -/
def asFlag? : Value → Option Bool
  | flag b => some b
  | _ => none

/-- The entity, of whatever kind. -/
def asEntity? : Value → Option Entity
  | entity e => some e
  | _ => none

/-- The entity, if it is of kind `k`. -/
def asEntityOf? (k : Kind) : Value → Option Entity
  | entity e => if e.kind = k then some e else none
  | _ => none

/-- The command, if the value is one. -/
def asCommand? : Value → Option (Command Unit)
  | command c => some c
  | _ => none

end Value

end ChatBot
