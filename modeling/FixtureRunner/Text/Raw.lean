/-
Text in which every character stands for one byte.  Scripts, their words and what
programs read and write are handled in this form.
-/

import FixtureRunner.Text.Bytes

namespace FixtureRunner

abbrev Raw := List Char

instance : Coe String Raw := ⟨String.toList⟩

namespace Raw

def ofBytes (bytes : Bytes) : Raw :=
  bytes.map fun byte => Char.ofNat byte.toNat

def toBytes (raw : Raw) : Bytes :=
  raw.map fun char => UInt8.ofNat char.toNat

def ofString (text : String) : Raw :=
  ofBytes (Text.toBytes text)

def toString (raw : Raw) : String :=
  Text.ofBytes (toBytes raw)

def ofNat (number : Nat) : Raw :=
  Nat.toDigits 10 number

def ofInt (number : Int) : Raw :=
  if number < 0 then '-' :: Nat.toDigits 10 number.natAbs else Nat.toDigits 10 number.natAbs

def digits? (base : Nat) (raw : Raw) : Option Nat :=
  if raw.isEmpty then
    none
  else
    raw.foldl (fun value char => do
      let soFar ← value
      if '0' ≤ char ∧ char.toNat < '0'.toNat + base then
        some (soFar * base + (char.toNat - '0'.toNat))
      else
        none) (some 0)

def nat? (raw : Raw) : Option Nat :=
  digits? 10 raw

def hexDigit? (char : Char) : Option Nat :=
  if char.isDigit then some (char.toNat - '0'.toNat)
  else if 'a' ≤ char.toLower && char.toLower ≤ 'f' then some (char.toLower.toNat - 'a'.toNat + 10)
  else none

def digitsAt (base : Nat) (text : Raw) : Nat × Raw :=
  let taken := text.takeWhile fun char => (hexDigit? char).any (· < base)
  (taken.foldl (fun value char => value * base + (hexDigit? char).getD 0) 0, text.drop taken.length)

def wholeAt (text : Raw) : Nat × Raw :=
  let marked (base : Nat) (digits : Raw) : Nat × Raw :=
    if (digits.head?.bind hexDigit?).any (· < base) then digitsAt base digits else digitsAt 8 text
  match text with
  | '0' :: mark :: rest =>
      if mark.toLower = 'x' then marked 16 rest
      else if mark.toLower = 'b' then marked 2 rest
      else digitsAt 8 text
  | '0' :: _ => digitsAt 8 text
  | _ => digitsAt 10 text

/-- The octal digits in front of a text, three at most. -/
def octalDigits (text : Raw) : Raw :=
  (text.take 3).takeWhile fun char => '0' ≤ char && char ≤ '7'

/-- The character that a letter behind a backslash stands for. -/
def letterEscape? (char : Char) : Option Char :=
  match char with
  | 'a' => some '\x07'
  | 'b' => some '\x08'
  | 'f' => some '\x0C'
  | 'n' => some '\n'
  | 'r' => some '\r'
  | 't' => some '\t'
  | 'v' => some '\x0B'
  | _ => none

def isSpace (char : Char) : Bool :=
  char = ' ' || ('\t' ≤ char && char ≤ '\r')

end Raw
end FixtureRunner
