/-
What a configuration file says: an object, or a list in the order of the keys, of a
schema version and seven optional settings, a null counting as absent.
-/

import FixtureRunner.Json.ValueReader

namespace FixtureRunner.Config

inductive Key where
  | schemaVersion
  | compiler
  | compilerArgs
  | diff
  | diffArgs
  | normalize
  | timeoutMs
  | maxOutputBytes
deriving DecidableEq

namespace Key

def name : Key → String
  | .schemaVersion => "schema_version"
  | .compiler => "compiler"
  | .compilerArgs => "compiler_args"
  | .diff => "diff"
  | .diffArgs => "diff_args"
  | .normalize => "normalize"
  | .timeoutMs => "timeout_ms"
  | .maxOutputBytes => "max_output_bytes"

def all : List Key :=
  [.schemaVersion, .compiler, .compilerArgs, .diff, .diffArgs, .normalize, .timeoutMs,
    .maxOutputBytes]

def ofName? (text : Text) : Option Key :=
  all.find? (·.name.toList = text)

end Key

inductive Value where
  | null
  | text (value : String)
  | texts (values : List String)
  | number (value : Nat)
deriving DecidableEq

/-- The members read so far, the last one first. -/
abbrev Members := List (Key × Value)

def Members.has (members : Members) (key : Key) : Bool :=
  members.any (·.1 = key)

def Members.value (members : Members) (key : Key) : Value :=
  (members.lookup key).getD .null

def Value.text? : Value → Option String
  | .text value => some value
  | _ => none

def Value.texts? : Value → Option (List String)
  | .texts values => some values
  | _ => none

def Value.number? : Value → Option Nat
  | .number value => some value
  | _ => none

structure Document where
  schemaVersion : String
  compiler : Option String := none
  compilerArgs : Option (List String) := none
  diff : Option String := none
  diffArgs : Option (List String) := none
  normalize : Option (List String) := none
  timeoutMs : Option Nat := none
  maxOutputBytes : Option Nat := none
deriving DecidableEq

def Document.ofMembers (members : Members) : Document :=
  { schemaVersion := (members.value .schemaVersion).text?.getD ""
    compiler := (members.value .compiler).text?
    compilerArgs := (members.value .compilerArgs).texts?
    diff := (members.value .diff).text?
    diffArgs := (members.value .diffArgs).texts?
    normalize := (members.value .normalize).texts?
    timeoutMs := (members.value .timeoutMs).number?
    maxOutputBytes := (members.value .maxOutputBytes).number? }

/-! ### Reading -/

open Json (Reader)
open Json.Reader

def readText (expected : String) : Reader Value :=
  return .text (String.ofList (← text expected))

def readTexts : Reader Value :=
  return .texts ((← list (text "a string")).map String.ofList)

def readNumber (expected : String) : Reader Value :=
  return .number (← natural expected)

def orNull (reader : Reader Value) : Reader Value :=
  return (← nullable reader).getD .null

def readValue : Key → Reader Value
  | .schemaVersion => readText "a string"
  | .compiler => orNull (readText "path string")
  | .compilerArgs => orNull readTexts
  | .diff => orNull (readText "path string")
  | .diffArgs => orNull readTexts
  | .normalize => orNull readTexts
  | .timeoutMs => orNull (readNumber "u64")
  | .maxOutputBytes => orNull (readNumber "usize")

def shapeName : String := "struct ConfigFile"

/-- The members of an object; each key is known and stands once. -/
def readMembers : Nat → Members → Reader Members
  | 0, _ => failAhead .endInObject
  | room + 1, members => do
      match ← nextKey members.isEmpty with
      | none =>
          if members.has .schemaVersion then return members
          else failUnplaced (.missingKey Key.schemaVersion.name)
      | some written =>
          match Key.ofName? written with
          | none => failUnplaced (.unknownKey written (Key.all.map Key.name))
          | some key =>
              if members.has key then failUnplaced (.repeatedKey key.name)
              else do
                colon
                let value ← readValue key
                readMembers room ((key, value) :: members)

/-- The values of a list, for the given keys in order; only the first is required. -/
def readListed : List Key → Members → Reader Members
  | [], members => return members
  | key :: rest, members => do
      if ← hasItem members.isEmpty then do
        let value ← readValue key
        readListed rest ((key, value) :: members)
      else if members.isEmpty then
        failUnplaced (.wrongLength 0 (shapeName ++ " with 8 elements"))
      else
        return members

def readDocument : Reader Document := do
  match ← peekToken with
  | none => failAhead .endInValue
  | some byte => do
      let members ← placed (
        if byte = Json.ascii '[' then do
          drop
          closing (readListed Key.all []) closeList
        else if byte = Json.ascii '\x7b' then do
          drop
          closing (readMembers (Key.all.length + 1) []) closeObject
        else
          mismatch shapeName)
      finish
      return Document.ofMembers members

def Document.read (bytes : Bytes) : Except Json.Fault Document :=
  readDocument.read bytes

def currentVersion : String := "tstrun.config@0.1.0"

/-- White space around the version is ignored. -/
def Document.isCurrent (document : Document) : Bool :=
  Text.trim document.schemaVersion.toList = currentVersion.toList

end FixtureRunner.Config
