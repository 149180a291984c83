/-!
# Binary64 numbers

Documents may hold floating point numbers, and failures quote them as the shortest decimal
text that reads back to the same binary64 value. This module models binary64 exactly with
natural numbers: a finite value is `m × 2^e` with a mantissa below `2^53`, and every
operation rounds its exact result to the nearest such value, ties to an even mantissa.
Values of `2^1024` or more overflow.
-/

namespace ChatBot

/-- A non-negative finite binary64 magnitude `mantissa × 2^exponent`, in canonical form:
the mantissa is in `[2^52, 2^53)`, or below `2^52` only at the least exponent `-1074`;
zero is `0 × 2^(-1074)`. -/
structure Binary64 where
  mantissa : Nat
  exponent : Int
deriving DecidableEq, Repr, Inhabited

namespace Binary64

/-- Zero. -/
def zero : Binary64 :=
  ⟨0, -1074⟩

/-- `2^k` as a ratio `(numerator, denominator)`, for any integer `k`. -/
def powTwo (k : Int) : Nat × Nat :=
  if k ≥ 0 then (Nat.pow 2 k.toNat, 1) else (1, Nat.pow 2 (-k).toNat)

/-- The floor of the binary logarithm of `num / den` (both positive). -/
def floorLog2 (num den : Nat) : Int :=
  let guess : Int := (Nat.log2 num : Int) - (Nat.log2 den : Int)
  let (p, q) := powTwo guess
  -- num / den ≥ p / q exactly when num * q ≥ den * p
  if num * q ≥ den * p then guess else guess - 1

/-- The quotient `num / den` rounded to the nearest integer, ties to even. -/
def roundHalfEven (num den : Nat) : Nat :=
  let q := num / den
  let r := num % den
  if 2 * r > den then q + 1
  else if 2 * r < den then q
  else if q % 2 = 0 then q else q + 1

/-- The binary64 value nearest to the ratio `num / den`, or none when it overflows. -/
def ofRatio (num den : Nat) : Option Binary64 :=
  if num = 0 then some zero else
  let e : Int := max (floorLog2 num den - 52) (-1074)
  let (p, q) := powTwo e
  -- the scaled value is num / den / 2^e = (num * q) / (den * p)
  let m := roundHalfEven (num * q) (den * p)
  let (m, e) := if m = Nat.pow 2 53 then (Nat.pow 2 52, e + 1) else (m, e)
  if e > 971 then none else some ⟨m, e⟩

/-- The value as a ratio `(numerator, denominator)`. -/
def ratio (x : Binary64) : Nat × Nat :=
  let (p, q) := powTwo x.exponent
  (x.mantissa * p, q)

/-- The binary64 value nearest to a natural number. -/
def ofNat (n : Nat) : Option Binary64 :=
  ofRatio n 1

/-- The rounded product. -/
def mul (x y : Binary64) : Option Binary64 :=
  let (a, b) := x.ratio
  let (c, d) := y.ratio
  ofRatio (a * c) (b * d)

/-- The rounded quotient; `y` must not be zero. -/
def div (x y : Binary64) : Option Binary64 :=
  let (a, b) := x.ratio
  let (c, d) := y.ratio
  ofRatio (a * d) (b * c)

/-- The binary64 value nearest to `digits × 10^exponent`. -/
def ofDecimal (digits : Nat) (exponent : Int) : Option Binary64 :=
  if exponent ≥ 0 then ofRatio (digits * Nat.pow 10 exponent.toNat) 1
  else ofRatio digits (Nat.pow 10 (-exponent).toNat)

/-- The number of decimal digits of a positive number. -/
def digitCount (n : Nat) : Nat :=
  (toString n).length

/-- The binary64 value nearest to `digits × 10^exponent`, for exponents of any size: a
value of at least `10^309` overflows (none) and one below `10^-324` is zero, without
computing the power. -/
def ofScientific (digits : Nat) (exponent : Int) : Option Binary64 :=
  if digits = 0 then some zero
  else if exponent + digitCount digits ≥ 310 then none
  else if exponent + digitCount digits ≤ -324 then some zero
  else ofDecimal digits exponent

/-- How the shortest decimal breaks a tie between two candidates equally near. -/
inductive Tie where
  | up
  | even
deriving DecidableEq, Repr

/-- The floor of the decimal logarithm of `num / den` (both positive). -/
def floorLog10 (num den : Nat) : Int :=
  let guess : Int := (digitCount num : Int) - (digitCount den : Int)
  let atLeast (k : Int) : Bool :=
    if k ≥ 0 then num ≥ den * Nat.pow 10 k.toNat else num * Nat.pow 10 (-k).toNat ≥ den
  if atLeast guess then guess else guess - 1

/-- The decimal with `k` significant digits nearest to `x` among those that read back to
`x`, as `(digits, exponent)`; none when no `k`-digit decimal reads back. When `x` lies
halfway between two that read back, `tie` chooses: `up` takes the larger, `even` the one
with an even last digit. -/
def closestWith (x : Binary64) (k : Nat) (tie : Tie) : Option (Nat × Int) :=
  let (num, den) := x.ratio
  let p : Int := floorLog10 num den - k + 1
  -- x / 10^p lies in [10^(k-1), 10^k)
  let (a, b) := if p ≥ 0 then (num, den * Nat.pow 10 p.toNat) else (num * Nat.pow 10 (-p).toNat, den)
  let low := a / b
  let backs (c : Nat) : Bool := ofDecimal c p == some x
  -- distances to x, scaled by b: x·b/… − low·b = a − low·b, and (low+1)·b − a
  let dLow := a - low * b
  let dHigh := (low + 1) * b - a
  let high := dHigh < dLow ||
    (dHigh == dLow && match tie with
      | .up => true
      | .even => low % 2 == 1)
  match backs low, backs (low + 1) with
  | true, true => if high then some (low + 1, p) else some (low, p)
  | true, false => some (low, p)
  | false, true => some (low + 1, p)
  | false, false => none

/-- The shortest decimal that reads back to `x`, searching from `k` digits up to 17. -/
def shortestFrom (x : Binary64) (tie : Tie) : Nat → Nat → Nat × Int
  | 0, _ => (x.mantissa, 0)
  | fuel + 1, k =>
    match closestWith x k tie with
    | some r => r
    | none => shortestFrom x tie fuel (k + 1)

/-- `digits × 10^exponent` with the trailing zeros of `digits` moved into the exponent. -/
def stripZeros : Nat → Nat × Int → Nat × Int
  | 0, r => r
  | fuel + 1, (d, p) => if d ≠ 0 ∧ d % 10 = 0 then stripZeros fuel (d / 10, p + 1) else (d, p)

/-- Positional decimal text of `digits × 10^exponent`, without an exponent: `0.001`,
`1.5`, `100`. -/
def positional (digits : Nat) (exponent : Int) : String :=
  let ds := toString digits
  let point : Int := exponent + ds.length
  if point ≤ 0 then "0." ++ String.ofList (List.replicate (-point).toNat '0') ++ ds
  else if point < ds.length then
    String.ofList (ds.toList.take point.toNat) ++ "." ++ String.ofList (ds.toList.drop point.toNat)
  else ds ++ String.ofList (List.replicate (point - ds.length).toNat '0')

/-- The shortest decimal that reads back to a nonzero value, with trailing zeros moved
into the exponent. -/
def shortestDigits (x : Binary64) (tie : Tie) : Nat × Int :=
  stripZeros 20 (shortestFrom x tie 17 1)

/-- The shortest positional decimal text that reads back to the value, a tie going to the
larger candidate. -/
def shortest (x : Binary64) : String :=
  if x.mantissa = 0 then "0" else
  let (d, p) := x.shortestDigits .up
  positional d p

/-- The shortest decimal text that reads back to the value, a tie going to the even
candidate, written positionally when its decimal point falls between 3 places before the
first digit and 16 places after it (`0.0001`, `1234567890123456.0`), and otherwise as one
digit, the other digits after a point, and a signed exponent of at least two digits
(`1e-05`, `1.5e+308`). Whole numbers end in `.0`; zero is `0.0`. -/
def scientific (x : Binary64) : String :=
  if x.mantissa = 0 then "0.0" else
  let (d, p) := x.shortestDigits .even
  let ds := toString d
  let point : Int := p + ds.length
  if -4 < point && point ≤ 16 then
    let text := positional d p
    if text.toList.contains '.' then text else text ++ ".0"
  else
    let e := point - 1
    let mantissa := match ds.toList with
      | c :: rest@(_ :: _) => String.singleton c ++ "." ++ String.ofList rest
      | _ => ds
    let digits := toString e.natAbs
    mantissa ++ "e" ++ (if e < 0 then "-" else "+") ++ (if digits.length < 2 then "0" else "") ++ digits

end Binary64

/-- A binary64 number as a document may hold it. -/
inductive Float64 where
  | finite (negative : Bool) (magnitude : Binary64)
  | infinite (negative : Bool)
  | nan
deriving DecidableEq, Repr, Inhabited

/-- The number as failures quote it: the shortest text, with `.0` added when it has no
decimal point; `inf`, `-inf` and `NaN` otherwise. -/
def Float64.quoted : Float64 → String
  | .finite negative x =>
    let body := (if negative then "-" else "") ++ x.shortest
    if body.toList.contains '.' then body else body ++ ".0"
  | .infinite negative => if negative then "-inf" else "inf"
  | .nan => "NaN"

/-- The number as JSON failures quote it: the shortest text in the positional or exponent
form of `Binary64.scientific`; `inf`, `-inf` and `NaN` otherwise. -/
def Float64.scientific : Float64 → String
  | .finite negative x => (if negative then "-" else "") ++ x.scientific
  | .infinite negative => if negative then "-inf" else "inf"
  | .nan => "NaN"

example : (Float64.finite false ((Binary64.ofDecimal 15 (-1)).getD .zero)).quoted = "1.5" := by
  decide +kernel

end ChatBot
