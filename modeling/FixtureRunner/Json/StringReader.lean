/-
Reading strings: the bytes between the quotes with their escapes resolved, which have
to be the encoding of a text.
-/

import FixtureRunner.Json.Cursor

namespace FixtureRunner.Json

def hexValue? (byte : UInt8) : Option Nat :=
  if isDigit byte then some (digitValue byte)
  else if ascii 'a' ≤ byte ∧ byte ≤ ascii 'f' then some (byte.toNat - (ascii 'a').toNat + 10)
  else if ascii 'A' ≤ byte ∧ byte ≤ ascii 'F' then some (byte.toNat - (ascii 'A').toNat + 10)
  else none

def fourHexValue? (bytes : Bytes) : Option Nat :=
  bytes.foldl (fun value byte => do return (← value) * 16 + (← hexValue? byte)) (some 0)

def shortEscape? (byte : UInt8) : Option UInt8 :=
  if byte = ascii '"' ∨ byte = ascii '\\' ∨ byte = ascii '/' then some byte
  else if byte = ascii 'b' then some 0x08
  else if byte = ascii 'f' then some 0x0C
  else if byte = ascii 'n' then some 0x0A
  else if byte = ascii 'r' then some 0x0D
  else if byte = ascii 't' then some 0x09
  else none

def isTrailingSurrogate (unit : Nat) : Bool :=
  0xDC00 ≤ unit && unit ≤ 0xDFFF

def isLeadingSurrogate (unit : Nat) : Bool :=
  0xD800 ≤ unit && unit ≤ 0xDBFF

namespace Reader

def dropAll : Reader Unit :=
  modify fun cursor => cursor.rest.foldl (fun moved _ => moved.next) cursor

def hexUnit : Reader Nat := do
  let four := (← get).rest.take 4
  if four.length < 4 then do
    dropAll
    failHere .endInString
  else do
    modify fun cursor => four.foldl (fun moved _ => moved.next) cursor
    match fourHexValue? four with
    | some value => return value
    | none => failHere .badEscape

def pairMark (mark : Char) : Reader Unit := do
  match ← peek with
  | none => failHere .endInString
  | some byte => do
      drop
      if byte = ascii mark then return () else failHere .escapeCutShort

def numericEscape : Reader Char := do
  let unit ← hexUnit
  if isTrailingSurrogate unit then
    failHere .loneSurrogate
  else if isLeadingSurrogate unit then do
    pairMark '\\'
    pairMark 'u'
    let second ← hexUnit
    if isTrailingSurrogate second then
      return Char.ofNat (0x10000 + (unit - 0xD800) * 0x400 + (second - 0xDC00))
    else
      failHere .loneSurrogate
  else
    return Char.ofNat unit

def escape : Reader Bytes := do
  match ← take with
  | none => failHere .endInString
  | some byte =>
      if byte = ascii 'u' then return Text.encodeChar (← numericEscape)
      else
        match shortEscape? byte with
        | some meant => return [meant]
        | none => failHere .badEscape

def contents : Nat → Reader Bytes
  | 0 => failHere .endInString
  | room + 1 => do
      match ← peek with
      | none => failHere .endInString
      | some byte =>
          if byte = ascii '"' then
            return []
          else do
            drop
            if byte = ascii '\\' then do
              let meant ← escape
              return meant ++ (← contents room)
            else if byte < 0x20 then failHere .controlInString
            else return byte :: (← contents room)

/-- A string that starts at the cursor.  Bytes that are no text are noticed in front of
the closing quote. -/
def string : Reader Text := do
  drop
  let bytes ← contents ((← get).rest.length + 1)
  if Text.isWellFormed bytes then do
    drop
    return Text.decode bytes
  else
    failHere .badCodePoint

end Reader
end FixtureRunner.Json
