/-
The shortest decimal text of a floating-point magnitude.

Of the decimals that read back as the magnitude, those with the fewest digits are
taken, and of these the nearest to the exact value.  The text is positional for
decimal exponents from -5 to 15 and scientific otherwise.
-/

import FixtureRunner.Decimal.Double
import FixtureRunner.Text.Bytes

namespace FixtureRunner.Decimal

structure Scaled where
  digits : Nat
  exponent : Int
deriving DecidableEq

namespace Double

/-- The reals that round to a magnitude, in units of `2 ^ (exponent - 2)`: from `low` to
`high`, the ends included if `closed`. -/
structure Interval where
  low : Nat
  high : Nat
  closed : Bool

def interval (double : Double) : Interval :=
  let isPowerOfTwo := double.mantissa == Nat.pow 2 52 && leastExponent < double.exponent
  { low := 4 * double.mantissa - (if isPowerOfTwo then 1 else 2)
    high := 4 * double.mantissa + 2
    closed := double.mantissa % 2 == 0 }

/-- A natural number of units of `2 ^ (exponent - 2)`, over `10 ^ power`, as a quotient. -/
def unitsOver (double : Double) (units : Nat) (power : Int) : Nat × Nat :=
  let binary := double.exponent - 2
  let top := units * (if 0 ≤ binary then Nat.pow 2 binary.toNat else 1) *
    (if power < 0 then Nat.pow 10 (-power).toNat else 1)
  let bottom := (if binary < 0 then Nat.pow 2 (-binary).toNat else 1) *
    (if 0 ≤ power then Nat.pow 10 power.toNat else 1)
  (top, bottom)

/-- Whether `candidate * 10 ^ power` reads back as the magnitude. -/
def readsBack (double : Double) (candidate : Nat) (power : Int) : Bool :=
  let bounds := double.interval
  let (lowTop, lowBottom) := double.unitsOver bounds.low power
  let (highTop, highBottom) := double.unitsOver bounds.high power
  if bounds.closed then
    lowTop ≤ candidate * lowBottom && candidate * highBottom ≤ highTop
  else
    lowTop < candidate * lowBottom && candidate * highBottom < highTop

/-- The neighbour of the exact value on the grid of `10 ^ power` that reads back, the
nearer one if both do. -/
def onGrid? (double : Double) (power : Int) : Option Scaled :=
  let (top, bottom) := double.unitsOver (4 * double.mantissa) power
  let below := top / bottom
  let lowerFits := 0 < below && double.readsBack below power
  let upperFits := double.readsBack (below + 1) power
  let nearer :=
    if 2 * (top % bottom) < bottom || (2 * (top % bottom) == bottom && below % 2 == 0) then below
    else below + 1
  if lowerFits && upperFits then some ⟨nearer, power⟩
  else if lowerFits then some ⟨below, power⟩
  else if upperFits then some ⟨below + 1, power⟩
  else none

/-- Tries grids from the coarsest; `room` bounds how many are left. -/
def firstGrid : Nat → Double → Int → Scaled
  | 0, double, power => (double.onGrid? power).getD ⟨0, 0⟩
  | room + 1, double, power =>
      match double.onGrid? power with
      | some decimal => decimal
      | none => firstGrid room double (power - 1)

def coarsestPower : Int := 309

def shortest (double : Double) : Scaled :=
  firstGrid 700 double coarsestPower

end Double

def trimZeros : Nat → Scaled → Scaled
  | 0, decimal => decimal
  | room + 1, decimal =>
      if decimal.digits ≠ 0 ∧ decimal.digits % 10 = 0 then
        trimZeros room ⟨decimal.digits / 10, decimal.exponent + 1⟩
      else
        decimal

/-- Positional text keeps one digit on each side of the point. -/
def Scaled.text (decimal : Scaled) : Text :=
  let trimmed := trimZeros 20 decimal
  let digits := Nat.toDigits 10 trimmed.digits
  let count : Int := digits.length
  let leading := count + trimmed.exponent - 1
  if -5 ≤ leading ∧ leading ≤ 15 then
    if 0 ≤ trimmed.exponent then
      digits ++ List.replicate trimmed.exponent.toNat '0' ++ ['.', '0']
    else if 0 ≤ leading then
      digits.take (leading + 1).toNat ++ '.' :: digits.drop (leading + 1).toNat
    else
      ['0', '.'] ++ List.replicate (-leading - 1).toNat '0' ++ digits
  else
    let sign := if leading < 0 then '-' else '+'
    let mantissa :=
      match digits with
      | [] => []
      | [digit] => [digit]
      | digit :: rest => digit :: '.' :: rest
    mantissa ++ 'e' :: sign :: Nat.toDigits 10 leading.natAbs

def Double.text (double : Double) : Text :=
  if double.isZero then ['0', '.', '0'] else double.shortest.text

end FixtureRunner.Decimal
