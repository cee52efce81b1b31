/-
What can be wrong with a JSON document, and where.

A fault of the grammar is placed where it is found.  A fault of the content, such as
an unknown key, is thrown without a place and placed by the enclosing value once that
value has been closed.
-/

import FixtureRunner.Decimal.Shortest
import FixtureRunner.Text.Quoted

namespace FixtureRunner.Json

inductive Number where
  | natural (value : Nat)
  | negative (value : Nat)
  | real (isNegative : Bool) (magnitude : Decimal.Double)
deriving DecidableEq

inductive Found where
  | null
  | boolean (value : Bool)
  | number (value : Number)
  | text (value : Text)
  | list
  | object
deriving DecidableEq

def Number.description : Number → Text
  | .natural value => "integer `".toList ++ Nat.toDigits 10 value ++ ['`']
  | .negative value => "integer `-".toList ++ Nat.toDigits 10 value ++ ['`']
  | .real isNegative magnitude =>
      "floating point `".toList ++ (if isNegative then ['-'] else []) ++ magnitude.text ++ ['`']

def Found.description : Found → Text
  | .null => "null".toList
  | .boolean true => "boolean `true`".toList
  | .boolean false => "boolean `false`".toList
  | .number value => value.description
  | .text value => "string ".toList ++ Text.quoted value
  | .list => "sequence".toList
  | .object => "map".toList

inductive Cause where
  | endInList
  | endInObject
  | endInString
  | endInValue
  | colonExpected
  | listSeparatorExpected
  | objectSeparatorExpected
  | wordExpected
  | valueExpected
  | badEscape
  | badNumber
  | numberTooLarge
  | badCodePoint
  | controlInString
  | keyNotText
  | loneSurrogate
  | escapeCutShort
  | trailingComma
  | trailingCharacters
  | wrongKind (found : Found) (expected : String)
  | wrongValue (found : Found) (expected : String)
  | wrongLength (length : Nat) (expected : String)
  | unknownKey (key : Text) (known : List String)
  | repeatedKey (key : String)
  | missingKey (key : String)
deriving DecidableEq

def Cause.message : Cause → String
  | .endInList => "EOF while parsing a list"
  | .endInObject => "EOF while parsing an object"
  | .endInString => "EOF while parsing a string"
  | .endInValue => "EOF while parsing a value"
  | .colonExpected => "expected `:`"
  | .listSeparatorExpected => "expected `,` or `]`"
  | .objectSeparatorExpected => "expected `,` or `\x7d`"
  | .wordExpected => "expected ident"
  | .valueExpected => "expected value"
  | .badEscape => "invalid escape"
  | .badNumber => "invalid number"
  | .numberTooLarge => "number out of range"
  | .badCodePoint => "invalid unicode code point"
  | .controlInString => "control character (\\u0000-\\u001F) found while parsing a string"
  | .keyNotText => "key must be a string"
  | .loneSurrogate => "lone leading surrogate in hex escape"
  | .escapeCutShort => "unexpected end of hex escape"
  | .trailingComma => "trailing comma"
  | .trailingCharacters => "trailing characters"
  | .wrongKind found expected =>
      "invalid type: " ++ String.ofList found.description ++ ", expected " ++ expected
  | .wrongValue found expected =>
      "invalid value: " ++ String.ofList found.description ++ ", expected " ++ expected
  | .wrongLength length expected =>
      "invalid length " ++ toString length ++ ", expected " ++ expected
  | .unknownKey key known =>
      "unknown field `" ++ String.ofList key ++ "`, expected one of " ++
        String.intercalate ", " (known.map fun name => "`" ++ name ++ "`")
  | .repeatedKey key => "duplicate field `" ++ key ++ "`"
  | .missingKey key => "missing field `" ++ key ++ "`"

/-- Lines count from one and columns from zero, in bytes. -/
structure Place where
  line : Nat
  column : Nat
deriving DecidableEq

def Place.start : Place := ⟨1, 0⟩

def Place.after (place : Place) (byte : UInt8) : Place :=
  if byte = 0x0A then ⟨place.line + 1, 0⟩ else ⟨place.line, place.column + 1⟩

structure Fault where
  cause : Cause
  place : Option Place
deriving DecidableEq

def Fault.message (fault : Fault) : String :=
  match fault.place with
  | none => fault.cause.message
  | some place =>
      fault.cause.message ++ " at line " ++ toString place.line ++
        " column " ++ toString place.column

end FixtureRunner.Json
