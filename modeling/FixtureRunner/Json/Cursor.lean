/-
A cursor in the bytes of a JSON document, and reading as a computation that moves it
and may fault.  A fault leaves the cursor where it was found, so that an enclosing
value can still be closed before the fault is placed.
-/

import FixtureRunner.Json.Fault

namespace FixtureRunner.Json

structure Cursor where
  rest : Bytes
  place : Place := .start

def Cursor.next (cursor : Cursor) : Cursor :=
  match cursor.rest with
  | [] => cursor
  | byte :: rest => { rest, place := cursor.place.after byte }

abbrev Reader := ExceptT Fault (StateM Cursor)

def ascii (char : Char) : UInt8 :=
  UInt8.ofNat char.toNat

def isSpace (byte : UInt8) : Bool :=
  byte = ascii ' ' || byte = ascii '\n' || byte = ascii '\t' || byte = ascii '\r'

def isDigit (byte : UInt8) : Bool :=
  ascii '0' ≤ byte && byte ≤ ascii '9'

def digitValue (byte : UInt8) : Nat :=
  byte.toNat - (ascii '0').toNat

namespace Reader

variable {α : Type}

def peek : Reader (Option UInt8) :=
  return (← get).rest.head?

def drop : Reader Unit :=
  modify Cursor.next

def take : Reader (Option UInt8) := do
  let byte ← peek
  drop
  return byte

def failHere (cause : Cause) : Reader α := do
  throw { cause, place := some (← get).place }

def failAhead (cause : Cause) : Reader α := do
  throw { cause, place := some (← get).next.place }

def failUnplaced (cause : Cause) : Reader α :=
  throw { cause, place := none }

def placed (reader : Reader α) : Reader α :=
  tryCatch reader fun fault => do
    match fault.place with
    | some _ => throw fault
    | none => throw { fault with place := some (← get).place }

/-- Closes a value also behind a fault inside it, which wins over one in the closing. -/
def closing (inside : Reader α) (close : Reader Unit) : Reader α := do
  let result ← tryCatch (Except.ok <$> inside) (fun fault => pure (Except.error fault))
  match result with
  | .ok value => do
      close
      return value
  | .error fault => do
      tryCatch close (fun _ => pure ())
      throw fault

def peekToken : Reader (Option UInt8) := do
  modify fun cursor =>
    (cursor.rest.takeWhile isSpace).foldl (fun moved _ => moved.next) cursor
  peek

def takeDigits : Reader (List Nat) := do
  let digits := (← get).rest.takeWhile isDigit
  modify fun cursor => digits.foldl (fun moved _ => moved.next) cursor
  return digits.map digitValue

def finishWord : List Char → Reader Unit
  | [] => return ()
  | char :: rest => do
      match ← take with
      | none => failHere .endInValue
      | some byte => if byte = ascii char then finishWord rest else failHere .wordExpected

end Reader
end FixtureRunner.Json
