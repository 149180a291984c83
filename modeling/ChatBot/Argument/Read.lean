import ChatBot.Argument.Bindings
import ChatBot.Argument.Duration
import ChatBot.Argument.Signature
import ChatBot.Registry
import ChatBot.Text.Words

/-!
# Reading arguments

A message's argument text is split into words, then read against a signature:

1. every flag marker `!name` (the name compared after lowercasing) is taken out wherever
   it stands, and its flag is set;
2. the other parameters take words from the left, in order. Text takes every word left
   (joined by single spaces) and ends the reading; a repeated parameter takes words while
   each one reads; a duration also absorbs the following words that carry units;
3. a parameter that cannot read takes nothing. That is a fault when it is required and is
   passed over otherwise. Words left at the end are ignored.
-/

namespace ChatBot

open Text

/-- What reading needs besides the text: how to resolve entities, and the commands a
command argument may name (none means such an argument never reads). -/
structure Context where
  resolver : Resolver := Resolver.mentions
  commands : Option (Registry Unit) := none

namespace Reading

/-- Whether `token` is a marker of the flag `name`: `!` followed by a word that lowercases
to the name. -/
def isMarker (name token : String) : Bool :=
  match token.toList with
  | '!' :: rest => lower (String.ofList rest) == name
  | _ => false

/-- Takes every marker of each flag out of the words, setting the flags that had one. -/
def pullFlags (flags : List Parameter) (tokens : List String) (b : Bindings) :
    List String × Bindings :=
  flags.foldl
    (fun (ts, acc) f =>
      let kept := ts.filter (fun t => !isMarker f.name t)
      if kept.length == ts.length then (ts, acc) else (kept, acc.insert f.name (.flag true)))
    (tokens, b)

/-- Reads an ASCII-digit word as a signed 64-bit number. -/
def readDigit (token : String) : Option Int64 :=
  readDigitsI64 token

/-- Adds the following words that carry units to `total`, stopping at the first word
without units, one that denotes nothing, or a sum of 2^64 or more. Returns the total and
how many words it used. -/
def absorbDurations (total : UInt64) (used : Nat) : List String → UInt64 × Nat
  | [] => (total, used)
  | t :: rest =>
    if !Duration.hasUnit t then (total, used)
    else
      match Duration.parseToken t with
      | some s =>
        if total.toNat + s.toNat < Nat.pow 2 64 then absorbDurations (total + s) (used + 1) rest
        else (total, used)
      | none => (total, used)

/-- One value of kind `k` from the front of the words, with the number of words used. -/
def takeOne (ctx : Context) (k : Kind) : List String → Option (Value × Nat)
  | [] => none
  | t :: rest =>
    match k with
    | .word => some (.word t, 1)
    | .digit => (readDigit t).map fun n => (.digit n, 1)
    | .duration =>
      (Duration.parseToken t).map fun s =>
        let (total, used) := absorbDurations s 1 rest
        (.duration total, used)
    | .command => do
      let registry ← ctx.commands
      let c ← registry.get? (lower t)
      pure (.command c, 1)
    | .text | .flag | .unknown => none
    | entityKind => (ctx.resolver.resolve entityKind t).map fun e => (.entity e, 1)

/-- One item of a repeated parameter: durations read one word each. -/
def takeItem (ctx : Context) (k : Kind) (token : String) : Option Value :=
  match k with
  | .duration => (Duration.parseToken token).map .duration
  | _ => (takeOne ctx k [token]).map (·.1)

/-- The items read from the front of the words, up to the first word that does not read. -/
def takeItems (ctx : Context) (k : Kind) : List String → List Value
  | [] => []
  | t :: rest =>
    match takeItem ctx k t with
    | some v => v :: takeItems ctx k rest
    | none => []

/-- What a parameter reads from the front of the words, with the number of words used. -/
def take (ctx : Context) (p : Parameter) (tokens : List String) : Option (Value × Nat) :=
  if p.kind = .text then
    if tokens.isEmpty then none else some (.text (" ".intercalate tokens), tokens.length)
  else if p.repeated then
    match takeItems ctx p.kind tokens with
    | [] => none
    | items => some (.list items, items.length)
  else takeOne ctx p.kind tokens

/-- Reads the positional parameters in order from the words; `input` is the whole text,
reported when a required parameter cannot read. -/
def walk (ctx : Context) (input : String) :
    List Parameter → List String → Bindings → Except Fault Bindings
  | [], _, acc => .ok acc
  | p :: ps, tokens, acc =>
    match take ctx p tokens with
    | some (v, used) =>
      let acc := acc.insert p.name v
      if p.kind = .text then .ok acc else walk ctx input ps (tokens.drop used) acc
    | none =>
      if p.required then .error (.missingArgument p.name input)
      else if p.kind = .text then .ok acc
      else walk ctx input ps tokens acc

end Reading

/-- The arguments a message text gives for a signature. -/
def Signature.read (g : Signature) (ctx : Context) (input : String) : Except Fault Bindings :=
  let (tokens, flags) := Reading.pullFlags g.flags (words input) Bindings.empty
  Reading.walk ctx input g.positional tokens flags

end ChatBot
