/-!
# Binary floating point in decimal

Finite numbers with a significand of 53 bits: the nearest one to a decimal numeral, and the decimal digits that stand
for one, which are the fewest that read back to it and of those the nearest.
-/
namespace SignOnOperator

/-- A finite binary floating point number: `significand · 2 ^ exponent`, negated if `negative`.  The significand is
below `2 ^ 53`, and at least `2 ^ 52` unless the exponent is the least, `-1074`. -/
structure Double where
  negative : Bool
  significand : Nat
  exponent : Int
  deriving DecidableEq, Repr

namespace Double

def leastExponent : Int := -1074

/-- The nearest whole number to a quotient; a half goes to the even neighbour. -/
def roundDiv (num den : Nat) : Nat :=
  let q := num / den
  let twice := 2 * (num % den)
  if twice < den then q
  else if den < twice then q + 1
  else if q % 2 = 0 then q else q + 1

/-- The quotient `num / den · 2 ^ (-e)` as a fraction of naturals. -/
def scaleDown (num den : Nat) (e : Int) : Nat × Nat :=
  match e with
  | .ofNat k => (num, den * Nat.pow 2 k)
  | .negSucc k => (num * Nat.pow 2 (k + 1), den)

/-- The exponent at which the quotient has a significand of 53 bits, or the least one. -/
def exponentOf (num den : Nat) : Int :=
  let guess : Int := (Nat.log2 num : Int) - (Nat.log2 den : Int) - 52
  let fits (e : Int) : Bool :=
    let (n, d) := scaleDown num den e
    n / d < Nat.pow 2 53
  let e := if fits (guess - 1) then guess - 1 else if fits guess then guess else guess + 1
  if e < leastExponent then leastExponent else e

/-- The number nearest to `num / den`, if it is not beyond the greatest one. -/
def ofQuotient? (negative : Bool) (num den : Nat) : Option Double :=
  if num = 0 then some ⟨negative, 0, leastExponent⟩
  else
    let e := exponentOf num den
    let (n, d) := scaleDown num den e
    let m := roundDiv n d
    let (m, e) := if m = Nat.pow 2 53 then (Nat.pow 2 52, e + 1) else (m, e)
    if e > 971 then none else some ⟨negative, m, e⟩

/-- The number nearest to `digits · 10 ^ exponent`.  Beyond the range of either end no power is computed. -/
def ofDecimal? (negative : Bool) (digits : Nat) (exponent : Int) : Option Double :=
  let magnitude : Int := (Nat.toDigits 10 digits).length + exponent
  if digits = 0 ∨ magnitude < -400 then some ⟨negative, 0, leastExponent⟩
  else if magnitude > 400 then none
  else
    match exponent with
    | .ofNat k => ofQuotient? negative (digits * Nat.pow 10 k) 1
    | .negSucc k => ofQuotient? negative digits (Nat.pow 10 (k + 1))

/-- The value without its sign, as a fraction. -/
def magnitude (x : Double) : Nat × Nat :=
  match x.exponent with
  | .ofNat k => (x.significand * Nat.pow 2 k, 1)
  | .negSucc k => (x.significand, Nat.pow 2 (k + 1))

/-- Decimal digits and the power of ten that the last of them stands at. -/
structure Digits where
  digits : Nat
  exponent : Int

/-- The whole numbers next to `num / den · 10 ^ (-e)`, the nearer one first. -/
def neighbours (num den : Nat) (e : Int) : List Nat :=
  let (n, d) := match e with
    | .ofNat k => (num, den * Nat.pow 10 k)
    | .negSucc k => (num * Nat.pow 10 (k + 1), den)
  let q := n / d
  let twice := 2 * (n % d)
  if twice < d ∨ twice = d ∧ q % 2 = 0 then [q, q + 1] else [q + 1, q]

/-- Looks for a decimal with `count` digits that reads back, then with one more, at most `budget` times. -/
def shortestFrom (x : Double) (top : Int) : Nat → Nat → Option Digits
  | _, 0 => none
  | count, budget + 1 =>
    let (num, den) := x.magnitude
    let e : Int := top - count
    match (neighbours num den e).find? fun d => ofDecimal? x.negative d e == some x with
    | some d => some ⟨d, e⟩
    | none => shortestFrom x top (count + 1) budget

/-- The power of ten just above the value. -/
def decimalTop (x : Double) : Int :=
  let (num, den) := x.magnitude
  if den ≤ num then (Nat.toDigits 10 (num / den)).length
  else
    let zeros := (Nat.toDigits 10 (den / num)).length
    -- `1 / 10 ^ zeros < num / den ≤ 1 / 10 ^ (zeros - 1)`
    1 - (zeros : Int)

/-- Moves zeros at the end into the exponent. -/
def trimZeros : Nat → Digits → Digits
  | 0, d => d
  | n + 1, d => if d.digits % 10 = 0 ∧ d.digits ≠ 0 then trimZeros n ⟨d.digits / 10, d.exponent + 1⟩ else d

/-- The fewest decimal digits that read back, the nearest of them. -/
def shortest (x : Double) : Digits :=
  if x.significand = 0 then ⟨0, 0⟩
  else
    match shortestFrom x x.decimalTop 1 18 with
    | some d => trimZeros 18 d
    | none => ⟨0, 0⟩

/-- All digits in their places, with a part after the point even where it is zero. -/
def positional (x : Double) : String :=
  let d := x.shortest
  let digits := Nat.toDigits 10 d.digits
  let body := match d.exponent with
    | .ofNat k => digits ++ List.replicate (if d.digits = 0 then 0 else k) '0' ++ ['.', '0']
    | .negSucc k =>
      let places := k + 1
      let padded := List.replicate (places + 1 - digits.length) '0' ++ digits
      padded.take (padded.length - places) ++ '.' :: padded.drop (padded.length - places)
  String.ofList (if x.negative then '-' :: body else body)

/-- Positional from `1e-5` up to below `1e16`, otherwise with an exponent. -/
def compact (x : Double) : String :=
  let d := x.shortest
  let digits := Nat.toDigits 10 d.digits
  let point : Int := digits.length + d.exponent
  if d.digits = 0 ∨ (-5 < point ∧ point ≤ 16) then x.positional
  else
    let body := match digits with
      | [only] => [only]
      | first :: rest => first :: '.' :: rest
      | [] => []
    let exponent := (toString (point - 1)).toList
    String.ofList ((if x.negative then ['-'] else []) ++ body ++ 'e' :: exponent)

end Double
end SignOnOperator
