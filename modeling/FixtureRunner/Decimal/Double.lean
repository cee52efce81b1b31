/-
Binary floating-point magnitudes with 53 bits, rounded to nearest and ties to even.

A magnitude is a mantissa times a power of two.  Arithmetic is exact arithmetic on
natural numbers followed by one rounding.
-/

namespace FixtureRunner.Decimal

/-- The magnitude `mantissa * 2 ^ exponent`. -/
structure Double where
  mantissa : Nat
  exponent : Int
deriving DecidableEq

namespace Double

def zero : Double := ⟨0, 0⟩

/-- The least exponent, at which magnitudes lose precision instead. -/
def leastExponent : Int := -1074

def greatestExponent : Int := 971

/-- A quotient to the nearest natural number, a half to the even one. -/
def roundQuotient (numerator denominator : Nat) : Nat :=
  let quotient := numerator / denominator
  let twice := 2 * (numerator % denominator)
  if twice < denominator || (twice == denominator && quotient % 2 == 0) then quotient
  else quotient + 1

/-- The magnitude nearest to a quotient, or nothing if it is too large. -/
def ofQuotient? (numerator denominator : Nat) : Option Double :=
  if numerator = 0 then
    some zero
  else
    let estimate : Int := (numerator.log2 : Int) - (denominator.log2 : Int) - 52
    let scaled (exponent : Int) : Nat × Nat :=
      if 0 ≤ exponent then (numerator, denominator * Nat.pow 2 exponent.toNat)
      else (numerator * Nat.pow 2 (-exponent).toNat, denominator)
    let tooFine :=
      let (top, bottom) := scaled estimate
      top < bottom * Nat.pow 2 52
    let exponent := max leastExponent (if tooFine then estimate - 1 else estimate)
    let (top, bottom) := scaled exponent
    let rounded := roundQuotient top bottom
    let result : Double :=
      if rounded = Nat.pow 2 53 then ⟨Nat.pow 2 52, exponent + 1⟩ else ⟨rounded, exponent⟩
    if greatestExponent < result.exponent then none else some result

def isZero (double : Double) : Bool :=
  double.mantissa == 0

def quotient (double : Double) : Nat × Nat :=
  if 0 ≤ double.exponent then (double.mantissa * Nat.pow 2 double.exponent.toNat, 1)
  else (double.mantissa, Nat.pow 2 (-double.exponent).toNat)

def mul? (left right : Double) : Option Double :=
  let (leftTop, leftBottom) := left.quotient
  let (rightTop, rightBottom) := right.quotient
  ofQuotient? (leftTop * rightTop) (leftBottom * rightBottom)

def div (left right : Double) : Double :=
  let (leftTop, leftBottom) := left.quotient
  let (rightTop, rightBottom) := right.quotient
  (ofQuotient? (leftTop * rightBottom) (leftBottom * rightTop)).getD zero

/-- The magnitude nearest to a power of ten; the greatest one has exponent 308. -/
def powerOfTen (exponent : Nat) : Double :=
  (ofQuotient? (Nat.pow 10 exponent) 1).getD zero

/-- A significand times a power of ten, found by one multiplication or by divisions by at
most `10 ^ 308` each; nothing if it is too large.  Each operation rounds. -/
def scale? (significand : Nat) (exponent : Int) : Option Double :=
  let start := (ofQuotient? significand 1).getD zero
  let rec shrink : Nat → Double → Nat → Double
    | 0, value, _ => value
    | rounds + 1, value, power =>
        if value.isZero then value
        else if power ≤ 308 then value.div (powerOfTen power)
        else shrink rounds (value.div (powerOfTen 308)) (power - 308)
  if 0 ≤ exponent then
    if exponent ≤ 308 then start.mul? (powerOfTen exponent.toNat)
    else if start.isZero then some start
    else none
  else
    some (shrink 4 start (-exponent).toNat)

end Double
end FixtureRunner.Decimal
