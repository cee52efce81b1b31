/-
JSON values and their compact text.
-/

import FixtureRunner.Text.Bytes

namespace FixtureRunner

inductive Json where
  | null
  | bool (value : Bool)
  | number (value : Nat)
  | string (text : String)
  | array (items : List Json)
  | object (members : List (String × Json))

namespace Json

def hexDigits : List Char := "0123456789abcdef".toList

def hexDigit (value : Nat) : Char :=
  hexDigits.getD value '0'

/-- Quotes, backslashes and control characters are escaped, the common controls by letter. -/
def escapeChar (char : Char) : Text :=
  if char = '"' then ['\\', '"']
  else if char = '\\' then ['\\', '\\']
  else if char = '\x08' then ['\\', 'b']
  else if char = '\t' then ['\\', 't']
  else if char = '\n' then ['\\', 'n']
  else if char = '\x0C' then ['\\', 'f']
  else if char = '\r' then ['\\', 'r']
  else if char.toNat < 0x20 then
    ['\\', 'u', '0', '0', hexDigit (char.toNat / 16), hexDigit (char.toNat % 16)]
  else [char]

def quoted (text : Text) : Text :=
  '"' :: text.flatMap escapeChar ++ ['"']

mutual
def render : Json → Text
  | .null => ['n', 'u', 'l', 'l']
  | .bool true => ['t', 'r', 'u', 'e']
  | .bool false => ['f', 'a', 'l', 's', 'e']
  | .number value => Nat.toDigits 10 value
  | .string text => quoted text.toList
  | .array items => '[' :: renderItems items ++ [']']
  | .object members => '\x7b' :: renderMembers members ++ ['\x7d']

def renderItems : List Json → Text
  | [] => []
  | [item] => render item
  | item :: rest => render item ++ ',' :: renderItems rest

def renderMembers : List (String × Json) → Text
  | [] => []
  | [(key, value)] => quoted key.toList ++ ':' :: render value
  | (key, value) :: rest => quoted key.toList ++ ':' :: render value ++ ',' :: renderMembers rest
end

end Json
end FixtureRunner
