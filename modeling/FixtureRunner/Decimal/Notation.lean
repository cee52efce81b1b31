/-
Numbers with a fraction as text: with so many decimal places, with a power of ten, or in
whichever of the two forms is shorter.
-/

import FixtureRunner.Decimal.Double
import FixtureRunner.Text.Raw

namespace FixtureRunner.Decimal

inductive Real where
  | quotient (isNegative : Bool) (numerator denominator : Nat)
  | infinite (isNegative : Bool)
  | undefined (isNegative : Bool)

namespace Real

def zero : Real := .quotient false 0 1

def isNegative : Real → Bool
  | .quotient negative _ _ => negative
  | .infinite negative => negative
  | .undefined negative => negative

def placed (digits places : Nat) (keepsPoint : Bool) : Raw :=
  let text := Raw.ofNat digits
  let padded := List.replicate (places + 1 - text.length) '0' ++ text
  let whole := padded.take (padded.length - places)
  if places = 0 then whole ++ (if keepsPoint then ['.'] else [])
  else whole ++ '.' :: padded.drop (padded.length - places)

/-- A magnitude with so many places, a half going to the even neighbour. -/
def fixed (numerator denominator places : Nat) (keepsPoint : Bool) : Raw :=
  placed (Double.roundQuotient (numerator * Nat.pow 10 places) denominator) places keepsPoint

def roundOver (numerator denominator : Nat) (power : Int) : Nat :=
  if 0 ≤ power then Double.roundQuotient numerator (denominator * Nat.pow 10 power.toNat)
  else Double.roundQuotient (numerator * Nat.pow 10 (-power).toNat) denominator

def isBelow (numerator denominator : Nat) (power : Int) : Bool :=
  if 0 ≤ power then numerator < denominator * Nat.pow 10 power.toNat
  else numerator * Nat.pow 10 (-power).toNat < denominator

/-- The power of ten of the first digit; `room` bounds the search around an estimate. -/
def leadingPowerFrom (numerator denominator : Nat) : Nat → Int → Int
  | 0, power => power
  | room + 1, power =>
      if isBelow numerator denominator power then
        leadingPowerFrom numerator denominator room (power - 1)
      else if isBelow numerator denominator (power + 1) then
        power
      else
        leadingPowerFrom numerator denominator room (power + 1)

def leadingPower (numerator denominator : Nat) : Int :=
  if numerator = 0 then 0
  else
    let estimate := ((numerator.log2 : Int) - denominator.log2) * 30103 / 100000
    leadingPowerFrom numerator denominator 20 estimate

/-- The digits of a magnitude, `places` behind the first, and the power of the first. -/
def leadingDigits (numerator denominator places : Nat) : Nat × Int :=
  let power := leadingPower numerator denominator
  let digits := roundOver numerator denominator (power - places)
  if digits = Nat.pow 10 (places + 1) then (Nat.pow 10 places, power + 1) else (digits, power)

def powerText (mark : Char) (power : Int) : Raw :=
  let digits := Raw.ofNat power.natAbs
  mark :: (if power < 0 then '-' else '+') ::
    (if digits.length < 2 then '0' :: digits else digits)

def scientific (mark : Char) (numerator denominator places : Nat) (keepsPoint : Bool) : Raw :=
  let (digits, power) := leadingDigits numerator denominator places
  placed digits places keepsPoint ++ powerText mark power

def withoutZeros (text : Raw) : Raw :=
  if text.contains '.' then
    match text.reverse.dropWhile (· = '0') with
    | '.' :: rest => rest.reverse
    | rest => rest.reverse
  else
    text

def general (mark : Char) (numerator denominator precision : Nat) (keepsZeros : Bool) : Raw :=
  let digits := max precision 1
  let (leading, power) := leadingDigits numerator denominator (digits - 1)
  let tidy (text : Raw) : Raw := if keepsZeros then text else withoutZeros text
  if -4 ≤ power && power < digits then
    tidy (fixed numerator denominator ((digits : Int) - 1 - power).toNat keepsZeros)
  else
    tidy (placed leading (digits - 1) keepsZeros) ++ powerText mark power

/-- A number without its sign in the form that a letter asks for; whether its digits can be
filled up with zeros. -/
def magnitudeText (letter : Char) (precision : Nat) (alternate : Bool) : Real → Raw × Bool
  | .infinite _ => (if letter.isUpper then "INF".toList else "inf".toList, false)
  | .undefined _ => (if letter.isUpper then "NAN".toList else "nan".toList, false)
  | .quotient _ numerator denominator =>
      (match letter with
        | 'e' => scientific 'e' numerator denominator precision alternate
        | 'E' => scientific 'E' numerator denominator precision alternate
        | 'g' => general 'e' numerator denominator precision alternate
        | 'G' => general 'E' numerator denominator precision alternate
        | _ => fixed numerator denominator precision alternate, true)

/-! ### Reading -/

def exponentAt (mark : Char) (text : Raw) : Int × Raw :=
  match text with
  | char :: rest =>
      if char.toLower = mark then
        let (isNegative, body) :=
          match rest with
          | '-' :: others => (true, others)
          | '+' :: others => (false, others)
          | _ => (false, rest)
        let digits := body.takeWhile Char.isDigit
        match Raw.nat? digits with
        | some value => (if isNegative then -(value : Int) else value, body.drop digits.length)
        | none => (0, text)
      else
        (0, text)
  | [] => (0, text)

def magnitude? (base : Nat) (mark : Char) (markBase : Nat) (digit? : Char → Option Nat) (text : Raw) :
    Option (Nat × Nat × Raw) :=
  let isDigit (char : Char) : Bool := (digit? char).isSome
  let whole := text.takeWhile isDigit
  let after := text.drop whole.length
  let fraction :=
    match after with
    | '.' :: rest => rest.takeWhile isDigit
    | _ => []
  let rest :=
    match after with
    | '.' :: others => if whole.isEmpty && fraction.isEmpty then after else others.drop fraction.length
    | _ => after
  if whole.isEmpty && fraction.isEmpty then
    none
  else
    let digits := (whole ++ fraction).foldl (fun value char => value * base + (digit? char).getD 0) 0
    let (exponent, left) := exponentAt mark rest
    let bounded := max (-20000) (min 20000 exponent)
    let bottom := Nat.pow base fraction.length
    some <|
      if 0 ≤ bounded then (digits * Nat.pow markBase bounded.toNat, bottom, left)
      else (digits, bottom * Nat.pow markBase (-bounded).toNat, left)

/-- The exact number at the front of a text and what follows; nothing if there is none. -/
def read? (text : Raw) : Option (Real × Raw) :=
  let start := text.dropWhile Raw.isSpace
  let (isNegative, body) :=
    match start with
    | '-' :: rest => (true, rest)
    | '+' :: rest => (false, rest)
    | _ => (false, start)
  let lower := body.map Char.toLower
  let decimal : Option (Real × Raw) :=
    (magnitude? 10 'e' 10 (fun char => if char.isDigit then Raw.hexDigit? char else none) body).map
      fun (top, bottom, rest) => (.quotient isNegative top bottom, rest)
  if "infinity".toList.isPrefixOf lower then some (.infinite isNegative, body.drop 8)
  else if "inf".toList.isPrefixOf lower then some (.infinite isNegative, body.drop 3)
  else if "nan".toList.isPrefixOf lower then some (.undefined isNegative, body.drop 3)
  else if "0x".toList.isPrefixOf lower then
    match magnitude? 16 'p' 2 Raw.hexDigit? (body.drop 2) with
    | some (top, bottom, rest) => some (.quotient isNegative top bottom, rest)
    | none => decimal
  else
    decimal

def rounded : Real → Real × Bool
  | .quotient isNegative numerator denominator =>
      match Double.ofQuotient? numerator denominator with
      | none => (.infinite isNegative, true)
      | some double =>
          let (top, bottom) := double.quotient
          let isTiny := double.mantissa < Nat.pow 2 52 && double.exponent = Double.leastExponent
          let isInexact := top * denominator ≠ numerator * bottom
          let isLost := numerator ≠ 0 && double.isZero
          (.quotient isNegative top bottom, (isTiny && isInexact) || isLost)
  | other => (other, false)

end Real
end FixtureRunner.Decimal
