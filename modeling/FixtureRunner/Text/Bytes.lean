/-
Bytes and the characters they stand for.

Files and process streams are byte lists; everything the runner decides, it
decides on characters.  Decoding never fails: every maximal run of bytes that
cannot be continued to a character becomes one replacement character.
-/

namespace FixtureRunner

abbrev Bytes := List UInt8

abbrev Text := List Char

namespace Text

/-! ### Encoding -/

def encodeChar (char : Char) : Bytes :=
  let code := char.toNat
  if code < 0x80 then
    [UInt8.ofNat code]
  else if code < 0x800 then
    [UInt8.ofNat (0xC0 + code / 0x40), UInt8.ofNat (0x80 + code % 0x40)]
  else if code < 0x10000 then
    [UInt8.ofNat (0xE0 + code / 0x1000), UInt8.ofNat (0x80 + code / 0x40 % 0x40),
      UInt8.ofNat (0x80 + code % 0x40)]
  else
    [UInt8.ofNat (0xF0 + code / 0x40000), UInt8.ofNat (0x80 + code / 0x1000 % 0x40),
      UInt8.ofNat (0x80 + code / 0x40 % 0x40), UInt8.ofNat (0x80 + code % 0x40)]

def encode (text : Text) : Bytes :=
  text.flatMap encodeChar

/-! ### Decoding -/

/-- A character of several bytes that has been started: its value so far, how
many bytes follow the next one, and the range the next byte has to lie in. -/
structure Pending where
  value : Nat
  further : Nat
  low : Nat
  high : Nat

inductive Lead where
  | single (char : Char)
  | opening (pending : Pending)
  | stray

def replacement : Char := Char.ofNat 0xFFFD

def lead (byte : UInt8) : Lead :=
  let code := byte.toNat
  if code < 0x80 then .single (Char.ofNat code)
  else if code < 0xC2 then .stray
  else if code < 0xE0 then .opening ⟨code - 0xC0, 0, 0x80, 0xBF⟩
  else if code = 0xE0 then .opening ⟨0, 1, 0xA0, 0xBF⟩
  else if code = 0xED then .opening ⟨0xD, 1, 0x80, 0x9F⟩
  else if code < 0xF0 then .opening ⟨code - 0xE0, 1, 0x80, 0xBF⟩
  else if code = 0xF0 then .opening ⟨0, 2, 0x90, 0xBF⟩
  else if code < 0xF4 then .opening ⟨code - 0xF0, 2, 0x80, 0xBF⟩
  else if code = 0xF4 then .opening ⟨4, 2, 0x80, 0x8F⟩
  else .stray

/-- Either the character is complete, or it waits for an ordinary continuation byte. -/
def Pending.accept (pending : Pending) (byte : UInt8) : Char ⊕ Pending :=
  let value := pending.value * 0x40 + (byte.toNat - 0x80)
  match pending.further with
  | 0 => .inl (Char.ofNat value)
  | further + 1 => .inr ⟨value, further, 0x80, 0xBF⟩

def Pending.admits (pending : Pending) (byte : UInt8) : Bool :=
  pending.low ≤ byte.toNat && byte.toNat ≤ pending.high

/-- Decodes from between two characters (`none`) or inside a started one.  A byte
that does not continue the started character is read again as a first byte. -/
def decodeFrom : Option Pending → Bytes → Text
  | none, [] => []
  | some _, [] => [replacement]
  | none, byte :: rest =>
      match lead byte with
      | .single char => char :: decodeFrom none rest
      | .opening pending => decodeFrom (some pending) rest
      | .stray => replacement :: decodeFrom none rest
  | some pending, byte :: rest =>
      if pending.admits byte then
        match pending.accept byte with
        | .inl char => char :: decodeFrom none rest
        | .inr continued => decodeFrom (some continued) rest
      else
        match lead byte with
        | .single char => replacement :: char :: decodeFrom none rest
        | .opening opened => replacement :: decodeFrom (some opened) rest
        | .stray => replacement :: replacement :: decodeFrom none rest

def decode (bytes : Bytes) : Text :=
  decodeFrom none bytes

def isWellFormed (bytes : Bytes) : Bool :=
  encode (decode bytes) == bytes

def toBytes (text : String) : Bytes :=
  encode text.toList

def ofBytes (bytes : Bytes) : String :=
  String.ofList (decode bytes)

end Text
end FixtureRunner
