/-
The grammar of JSON.

A value has many spellings: blanks stand between the tokens, and the characters of a string may be
escaped in every way that the grammar has.
-/

import FixtureRunner.Json.Cursor
import FixtureRunner.Json.Value

namespace FixtureRunner.Json

/-! ### Blanks -/

def blankBytes : Bytes := [' ', '\n', '\t', '\r'].map ascii

structure Blank where
  bytes : Bytes
  areBlank : ∀ byte ∈ bytes, byte ∈ blankBytes

def Blank.none : Blank := ⟨[], by simp⟩

def Blank.append (first second : Blank) : Blank :=
  ⟨first.bytes ++ second.bytes, fun byte isThere =>
    (List.mem_append.mp isThere).elim (first.areBlank byte) (second.areBlank byte)⟩

/-! ### Strings -/

/-- The letters of short escapes with the characters they stand for. -/
def shortEscapes : List (Char × Char) :=
  [('"', '"'), ('\\', '\\'), ('/', '/'), ('b', '\x08'), ('f', '\x0C'), ('n', '\n'), ('r', '\r'),
    ('t', '\t')]

def hexAlphabets : List Text := ["0123456789abcdef".toList, "0123456789ABCDEF".toList]

def IsHexDigit (value : Nat) (byte : UInt8) : Prop :=
  ∃ alphabet ∈ hexAlphabets, (alphabet[value]?).map ascii = some byte

/-- Four hexadecimal digits. -/
inductive SpellsUnit : Nat → Bytes → Prop where
  | digits {first second third fourth : Nat} {firstByte secondByte thirdByte fourthByte : UInt8} :
      IsHexDigit first firstByte → IsHexDigit second secondByte → IsHexDigit third thirdByte →
      IsHexDigit fourth fourthByte →
      SpellsUnit (((first * 16 + second) * 16 + third) * 16 + fourth)
        [firstByte, secondByte, thirdByte, fourthByte]

/-- The spellings of a character inside a string: as itself, by a letter, by its number, or by the
two surrogates of a number that is too great for four digits. -/
inductive SpellsChar : Char → Bytes → Prop where
  | plain {char : Char} : char ≠ '"' → char ≠ '\\' → 0x20 ≤ char.toNat →
      SpellsChar char (Text.encodeChar char)
  | short {letter char : Char} : (letter, char) ∈ shortEscapes →
      SpellsChar char [ascii '\\', ascii letter]
  | unit {char : Char} {four : Bytes} : SpellsUnit char.toNat four →
      SpellsChar char (ascii '\\' :: ascii 'u' :: four)
  | pair {char : Char} {first second : Bytes} : 0x10000 ≤ char.toNat →
      SpellsUnit (0xD800 + (char.toNat - 0x10000) / 0x400) first →
      SpellsUnit (0xDC00 + (char.toNat - 0x10000) % 0x400) second →
      SpellsChar char
        (ascii '\\' :: ascii 'u' :: first ++ ascii '\\' :: ascii 'u' :: second)

/-- The spellings of a text between the quotes of a string. -/
inductive Spells : Text → Bytes → Prop where
  | nil : Spells [] []
  | cons {char : Char} {rest : Text} {piece bytes : Bytes} :
      SpellsChar char piece → Spells rest bytes → Spells (char :: rest) (piece ++ bytes)

def inQuotes (spelling : Bytes) : Bytes :=
  ascii '"' :: spelling ++ [ascii '"']

/-! ### Values -/

def wordBytes (word : Text) : Bytes :=
  word.map ascii

def digitBytes (value : Nat) : Bytes :=
  (Nat.toDigits 10 value).map ascii

structure Piece where
  before : Blank := Blank.none
  spelling : Bytes
  after : Blank := Blank.none

def Piece.bytes (piece : Piece) : Bytes :=
  piece.before.bytes ++ (piece.spelling ++ piece.after.bytes)

structure Field where
  before : Blank := Blank.none
  name : String
  nameSpelling : Bytes
  isName : Spells name.toList nameSpelling
  between : Blank := Blank.none
  value : Piece

def Field.front (field : Field) (behind : Bytes) : Bytes :=
  field.before.bytes ++ (inQuotes field.nameSpelling ++
    (field.between.bytes ++ ascii ':' :: behind))

def Field.bytes (field : Field) : Bytes :=
  field.front field.value.bytes

theorem Field.bytes_append (field : Field) (tail : Bytes) :
    field.bytes ++ tail = field.front (field.value.bytes ++ tail) := by
  simp [Field.bytes, Field.front]

/-- Pieces with commas between them, and one in front of them unless they are the first ones. -/
def punctuated : Bool → List Bytes → Bytes
  | _, [] => []
  | isFirst, piece :: others =>
      (if isFirst then [] else [ascii ',']) ++ (piece ++ punctuated false others)

def bracketed (opening closing : Char) (blank : Blank) (pieces : List Bytes) : Bytes :=
  ascii opening :: (blank.bytes ++ (punctuated true pieces ++ [ascii closing]))

/-- The spellings of a value. -/
inductive Renders : Json → Bytes → Prop where
  | null : Renders .null (wordBytes ['n', 'u', 'l', 'l'])
  | bool (value : Bool) : Renders (.bool value)
      (wordBytes (if value then ['t', 'r', 'u', 'e'] else ['f', 'a', 'l', 's', 'e']))
  | number (value : Nat) : Renders (.number value) (digitBytes value)
  | string {text : String} {spelling : Bytes} : Spells text.toList spelling →
      Renders (.string text) (inQuotes spelling)
  | array (blank : Blank) (items : List (Json × Piece)) :
      (∀ item ∈ items, Renders item.1 item.2.spelling) →
      Renders (.array (items.map Prod.fst)) (bracketed '[' ']' blank (items.map (·.2.bytes)))
  | object (blank : Blank) (members : List (Json × Field)) :
      (∀ member ∈ members, Renders member.1 member.2.value.spelling) →
      Renders (.object (members.map fun member => (member.2.name, member.1)))
        (bracketed '\x7b' '\x7d' blank (members.map (·.2.bytes)))

end FixtureRunner.Json
