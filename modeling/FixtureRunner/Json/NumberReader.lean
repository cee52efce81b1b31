/-
Reading numbers.

Digits are gathered into a significand as long as it fits into 64 bits; the digits
behind that only count for the decimal exponent.
-/

import FixtureRunner.Json.Cursor

namespace FixtureRunner.Json

def greatestNatural : Nat := Nat.pow 2 64 - 1

def greatestExponent : Nat := Nat.pow 2 31 - 1

/-- Appends digits to a significand while the result fits, and leaves the others. -/
def absorb : Nat → List Nat → Nat × List Nat
  | significand, [] => (significand, [])
  | significand, digit :: rest =>
      if significand * 10 + digit ≤ greatestNatural then absorb (significand * 10 + digit) rest
      else (significand, digit :: rest)

namespace Reader

def realNumber (isNegative : Bool) (significand : Nat) (exponent : Int) : Reader Number :=
  match Decimal.Double.scale? significand exponent with
  | some magnitude => return .real isNegative magnitude
  | none => failHere .numberTooLarge

/-- The digits of an exponent after the first; nothing once the exponent is too large. -/
def exponentFrom : Nat → Nat → Reader (Option Nat)
  | 0, value => return some value
  | room + 1, value => do
      match ← peek with
      | none => return some value
      | some byte =>
          if isDigit byte then do
            drop
            let extended := value * 10 + digitValue byte
            if extended ≤ greatestExponent then exponentFrom room extended else return none
          else
            return some value

def exponentPart (isNegative : Bool) (significand : Nat) (exponent : Int) : Reader Number := do
  drop
  let sign ← peek
  let isSigned := sign = some (ascii '+') || sign = some (ascii '-')
  let isSmall := sign = some (ascii '-')
  if isSigned then drop
  match ← take with
  | none => failHere .endInValue
  | some byte =>
      if isDigit byte then do
        match ← exponentFrom (← get).rest.length (digitValue byte) with
        | some power => do
            let shift : Int := power
            realNumber isNegative significand (if isSmall then exponent - shift else exponent + shift)
        | none => do
            if significand ≠ 0 ∧ !isSmall then
              failHere .numberTooLarge
            else do
              let _ ← takeDigits
              return .real isNegative .zero
      else
        failHere .badNumber

def exponentTail (isNegative : Bool) (significand : Nat) (exponent : Int) : Reader Number := do
  let byte ← peek
  if byte = some (ascii 'e') || byte = some (ascii 'E') then
    exponentPart isNegative significand exponent
  else
    realNumber isNegative significand exponent

def fractionPart (isNegative : Bool) (significand : Nat) (exponent : Int) : Reader Number := do
  drop
  let digits ← takeDigits
  match digits, ← peek with
  | [], some _ => failAhead .badNumber
  | [], none => failAhead .endInValue
  | _, _ => do
      let (extended, left) := absorb significand digits
      exponentTail isNegative extended (exponent - (digits.length - left.length : Nat))

/-- A number without fraction and exponent.  Zero below zero is a real number. -/
def integer (isNegative : Bool) (value : Nat) : Reader Number :=
  if !isNegative then return .natural value
  else if value = 0 ∨ Nat.pow 2 63 < value then realNumber true value 0
  else return .negative value

def numberTail (isNegative : Bool) (digits : List Nat) : Reader Number := do
  let (significand, left) := absorb 0 digits
  let exponent : Int := left.length
  let byte ← peek
  if byte = some (ascii '.') then fractionPart isNegative significand exponent
  else if byte = some (ascii 'e') || byte = some (ascii 'E') then
    exponentPart isNegative significand exponent
  else if left.isEmpty then integer isNegative significand
  else realNumber isNegative significand exponent

/-- A number behind its sign.  A zero at the front stands alone. -/
def unsignedNumber (isNegative : Bool) : Reader Number := do
  match ← peek with
  | none => failHere .endInValue
  | some byte =>
      if byte = ascii '0' then do
        drop
        match ← peek with
        | some following =>
            if isDigit following then failAhead .badNumber else numberTail isNegative []
        | none => numberTail isNegative []
      else if isDigit byte then do
        numberTail isNegative (← takeDigits)
      else do
        drop
        failHere .badNumber

def number : Reader Number := do
  if (← peek) = some (ascii '-') then do
    drop
    unsignedNumber true
  else
    unsignedNumber false

end Reader
end FixtureRunner.Json
