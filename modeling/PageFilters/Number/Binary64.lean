/-!
# Binary floating-point numbers

The numbers of the 64-bit binary format, as integers times powers of two.  A
decimal is rounded to the nearest of them, and a number is written with the
fewest digits that are rounded to it again.
-/

namespace PageFilters.Number

/-- The absolute value `significand * 2 ^ exponent`. -/
structure Magnitude where
  significand : Nat
  exponent : Int
  deriving Repr, DecidableEq, Inhabited

inductive Binary64 where
  | finite (negative : Bool) (magnitude : Magnitude)
  | infinite (negative : Bool)
  | nan
  deriving Repr, DecidableEq, Inhabited

/-- A quotient rounded to the nearest integer, half-way to the even one. -/
def roundedQuotient (numerator denominator : Nat) : Nat :=
  let quotient := numerator / denominator
  let twice := 2 * (numerator % denominator)
  if denominator < twice || (twice == denominator && quotient % 2 == 1) then quotient + 1
  else quotient

/-- The fraction `numerator / denominator * base ^ power`. -/
def scaled (base : Nat) (numerator denominator : Nat) (power : Int) : Nat × Nat :=
  if 0 ≤ power then (numerator * Nat.pow base power.toNat, denominator)
  else (numerator, denominator * Nat.pow base (-power).toNat)

/-- The greatest `power` with `2 ^ power ≤ numerator / denominator`. -/
def binaryOrder (numerator denominator : Nat) : Int :=
  let guess : Int := Int.ofNat numerator.log2 - Int.ofNat denominator.log2
  let (left, right) := scaled 2 numerator denominator (-guess)
  if left < right then guess - 1 else guess

namespace Magnitude

/-- Number of values that a significand can take. -/
def significandLimit : Nat := 0x20000000000000

def zero : Magnitude := ⟨0, -1074⟩

/-- The magnitude nearest to a positive fraction, none beyond the greatest. -/
def nearest? (numerator denominator : Nat) : Option Magnitude :=
  let exponent := max (-1074) (binaryOrder numerator denominator - 52)
  let (left, right) := scaled 2 numerator denominator (-exponent)
  let significand := roundedQuotient left right
  let (significand, exponent) :=
    if significand == significandLimit then (significandLimit / 2, exponent + 1)
    else (significand, exponent)
  if 971 < exponent then none else some ⟨significand, exponent⟩

/-- The magnitude nearest to `coefficient * 10 ^ power`, none beyond the
greatest.  Powers that leave no doubt are not raised. -/
def ofDecimal? (coefficient : Nat) (power : Int) : Option Magnitude :=
  if coefficient == 0 then some zero
  else
    let top := Int.ofNat coefficient.log2 / 3 + power
    if 400 < power + Int.ofNat coefficient.log2 / 4 then none
    else if top < -400 then some zero
    else
      let (numerator, denominator) := scaled 10 coefficient 1 power
      nearest? numerator denominator

/-- Whether a fraction is rounded to the magnitude. -/
def attracts (magnitude : Magnitude) (numerator denominator : Nat) : Bool :=
  numerator != 0 && nearest? numerator denominator == some magnitude

/-- The magnitude as a multiple of a power of ten, as a fraction. -/
def inUnits (magnitude : Magnitude) (power : Int) : Nat × Nat :=
  let (numerator, denominator) := scaled 2 magnitude.significand 1 magnitude.exponent
  scaled 10 numerator denominator (-power)

/-- Whether a decimal is rounded to the magnitude. -/
def attractsDecimal (magnitude : Magnitude) (coefficient : Nat) (power : Int) : Bool :=
  let (numerator, denominator) := scaled 10 coefficient 1 power
  magnitude.attracts numerator denominator

/-- The multiple of a power of ten that is rounded to the magnitude.  There are
two to choose from, next below and next above; of both the nearer one is taken,
and half-way the one above. -/
def neighbour? (magnitude : Magnitude) (power : Int) : Option Nat :=
  let (numerator, denominator) := magnitude.inUnits power
  let below := numerator / denominator
  let near := if denominator ≤ 2 * (numerator % denominator) then below + 1 else below
  let far := if near == below then below + 1 else below
  [near, far].find? fun coefficient => magnitude.attractsDecimal coefficient power

/-- The first decimal that is rounded to the magnitude when its last place moves
down from a power of ten. -/
def shortestFrom (magnitude : Magnitude) (power : Int) : (places : Nat) → Nat × Int
  | 0 => (0, power)
  | places + 1 =>
      match magnitude.neighbour? power with
      | some coefficient => (coefficient, power)
      | none => magnitude.shortestFrom (power - 1) places

/-- The shortest decimal that is rounded to the magnitude. -/
def shortest (magnitude : Magnitude) : Nat × Int :=
  let order := (Int.ofNat magnitude.significand.log2 + magnitude.exponent) * 30103 / 100000
  magnitude.shortestFrom (order + 2) 22

/-- A decimal without an exponent, with at least one digit behind the point. -/
def positional (coefficient : Nat) (power : Int) : String :=
  if 0 ≤ power then
    (coefficient * Nat.pow 10 power.toNat).repr ++ ".0"
  else
    let places := (-power).toNat
    let digits := coefficient.repr.toList
    let digits := List.replicate (places + 1 - digits.length) '0' ++ digits
    String.ofList (digits.take (digits.length - places)) ++ "." ++
      String.ofList (digits.drop (digits.length - places))

/-- The shortest text of a magnitude. -/
def text (magnitude : Magnitude) : String :=
  if magnitude.significand == 0 then "0.0"
  else
    let (coefficient, power) := magnitude.shortest
    positional coefficient power

end Magnitude

/-- The shortest text of a number. -/
def Binary64.text : Binary64 → String
  | .finite negative magnitude => (if negative then "-" else "") ++ magnitude.text
  | .infinite negative => if negative then "-inf" else "inf"
  | .nan => "NaN"

end PageFilters.Number
