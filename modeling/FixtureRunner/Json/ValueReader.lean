/-
Reading values of an expected kind, lists of them, and the punctuation of objects.
-/

import FixtureRunner.Json.NumberReader
import FixtureRunner.Json.StringReader

namespace FixtureRunner.Json

def startsNumber (byte : UInt8) : Bool :=
  byte = ascii '-' || isDigit byte

namespace Reader

variable {α : Type}

/-- Faults because another kind of value stands here.  Words, numbers and strings are
read first, and a fault inside them wins. -/
def mismatch (expected : String) : Reader α := do
  match ← peek with
  | none => failAhead .endInValue
  | some byte =>
      if byte = ascii 'n' then do
        drop
        finishWord ['u', 'l', 'l']
        failHere (.wrongKind .null expected)
      else if byte = ascii 't' then do
        drop
        finishWord ['r', 'u', 'e']
        failHere (.wrongKind (.boolean true) expected)
      else if byte = ascii 'f' then do
        drop
        finishWord ['a', 'l', 's', 'e']
        failHere (.wrongKind (.boolean false) expected)
      else if startsNumber byte then do
        let found ← number
        failHere (.wrongKind (.number found) expected)
      else if byte = ascii '"' then do
        let found ← string
        failHere (.wrongKind (.text found) expected)
      else if byte = ascii '[' then failHere (.wrongKind .list expected)
      else if byte = ascii '\x7b' then failHere (.wrongKind .object expected)
      else failAhead .valueExpected

def text (expected : String) : Reader Text := do
  match ← peekToken with
  | none => failAhead .endInValue
  | some byte => if byte = ascii '"' then string else mismatch expected

def natural (expected : String) : Reader Nat := do
  match ← peekToken with
  | none => failAhead .endInValue
  | some byte =>
      if startsNumber byte then do
        match ← number with
        | .natural value => return value
        | .negative value => failHere (.wrongValue (.number (.negative value)) expected)
        | .real isNegative magnitude =>
            failHere (.wrongKind (.number (.real isNegative magnitude)) expected)
      else
        mismatch expected

def nullable (reader : Reader α) : Reader (Option α) := do
  if (← peekToken) = some (ascii 'n') then do
    drop
    finishWord ['u', 'l', 'l']
    return none
  else
    return some (← reader)

/-! ### Lists -/

def hasItem (isFirst : Bool) : Reader Bool := do
  match ← peekToken with
  | none => failAhead .endInList
  | some byte =>
      if byte = ascii ']' then return false
      else if isFirst then return true
      else if byte = ascii ',' then do
        drop
        match ← peekToken with
        | none => failAhead .endInValue
        | some following =>
            if following = ascii ']' then failAhead .trailingComma else return true
      else
        failAhead .listSeparatorExpected

def closeList : Reader Unit := do
  match ← peekToken with
  | none => failAhead .endInList
  | some byte =>
      if byte = ascii ']' then drop
      else if byte = ascii ',' then do
        drop
        if (← peekToken) = some (ascii ']') then failAhead .trailingComma
        else failAhead .trailingCharacters
      else
        failAhead .trailingCharacters

def items (reader : Reader α) : Nat → Bool → Reader (List α)
  | 0, _ => failAhead .endInList
  | room + 1, isFirst => do
      if ← hasItem isFirst then do
        let item ← reader
        return item :: (← items reader room false)
      else
        return []

def list (reader : Reader α) : Reader (List α) := do
  match ← peekToken with
  | none => failAhead .endInValue
  | some byte =>
      if byte = ascii '[' then do
        drop
        closing (items reader ((← get).rest.length + 1) true) closeList
      else
        mismatch "a sequence"

/-! ### Objects -/

def nextKey (isFirst : Bool) : Reader (Option Text) := do
  match ← peekToken with
  | none => failAhead .endInObject
  | some byte =>
      if byte = ascii '\x7d' then return none
      else if isFirst then
        if byte = ascii '"' then return some (← string) else failAhead .keyNotText
      else if byte = ascii ',' then do
        drop
        match ← peekToken with
        | none => failAhead .endInValue
        | some following =>
            if following = ascii '"' then return some (← string)
            else if following = ascii '\x7d' then failAhead .trailingComma
            else failAhead .keyNotText
      else
        failAhead .objectSeparatorExpected

def colon : Reader Unit := do
  match ← peekToken with
  | none => failAhead .endInObject
  | some byte => if byte = ascii ':' then drop else failAhead .colonExpected

def closeObject : Reader Unit := do
  match ← peekToken with
  | none => failAhead .endInObject
  | some byte =>
      if byte = ascii '\x7d' then drop
      else if byte = ascii ',' then failAhead .trailingComma
      else failAhead .trailingCharacters

def finish : Reader Unit := do
  match ← peekToken with
  | none => return ()
  | some _ => failAhead .trailingCharacters

end Reader

def Reader.read {α : Type} (reader : Reader α) (bytes : Bytes) : Except Fault α :=
  (reader.run { rest := bytes }).1

end FixtureRunner.Json
