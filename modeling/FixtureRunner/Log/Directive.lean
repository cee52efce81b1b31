/-
Directives of a log filter.

A directive sets how much is shown, of everything or of the sources whose name starts
with its target.  Brackets behind the target confine it: to what happens inside a named
stretch of work, or between braces to events that have a field.
-/

import FixtureRunner.Log.Event
import FixtureRunner.Pattern.Meaning

namespace FixtureRunner.Log

structure FieldQuery where
  name : Text
  value : Option Text := none
deriving DecidableEq

structure Directive where
  /-- No target concerns every source. -/
  target : Option Text := none
  stretch : Option Text := none
  fields : List FieldQuery := []
  rank : Nat := 5
deriving DecidableEq

/-- A rank by its number: digits behind an optional plus sign. -/
def rankOfNumber? (text : Text) : Option Nat :=
  let digits :=
    match text with
    | '+' :: rest => rest
    | _ => text
  if digits.isEmpty || !digits.all Char.isDigit then
    none
  else
    let value := digits.foldl (fun value char => value * 10 + (char.toNat - '0'.toNat)) 0
    if value ≤ 5 then some value else none

/-- Case does not matter in the name of a level, which can also be its rank. -/
def rankOf? (text : Text) : Option Nat :=
  match rankOfNumber? text with
  | some rank => some rank
  | none =>
      match String.ofList (text.map Char.toLower) with
      | "off" => some 0
      | "error" => some 1
      | "warn" => some 2
      | "info" => some 3
      | "debug" => some 4
      | "trace" => some 5
      | _ => none

def startsTarget (char : Char) : Bool :=
  char = '-' || char = ':' || char = '_' || Text.Property.isAlphabetic char ||
    Text.Property.isNumeric char

def fieldQuery? (text : Text) : Option FieldQuery :=
  match Text.fields '=' text with
  | name :: value :: _ =>
      match Pattern.compile (String.ofList value) with
      | .ok _ => some { name, value := some value }
      | .error _ => none
  | name :: [] => if name.isEmpty then none else some { name }
  | [] => none

inductive Place where
  | start
  | name (start : Nat)
  | stretch (start : Nat)
  | field (start : Nat)
  | behindField
  | behindStretch
  | level (start : Nat)
deriving DecidableEq

def placed : Nat → Text → List (Nat × Char)
  | _, [] => []
  | offset, char :: rest => (offset, char) :: placed (offset + char.utf8Size) rest

def slice (text : Text) (start stop : Nat) : Text :=
  ((placed 0 text).filter fun (offset, _) => start ≤ offset && offset < stop).map (·.2)

/-- Reads one character at a byte of the directive; parts are cut out of `whole`. -/
def Directive.step (whole : Text) (held : Place × Directive) (next : Nat × Char) :
    Option (Place × Directive) :=
  let (place, directive) := held
  let (offset, char) := next
  match place with
  | .start =>
      if char = '[' then some (.stretch (offset + 1), directive)
      else if startsTarget char then some (.name offset, directive)
      else none
  | .name start =>
      if char = '=' then
        some (.level (offset + 1), { directive with target := some (slice whole start offset) })
      else if char = '[' then
        some (.stretch (offset + 1), { directive with target := some (slice whole start offset) })
      else some held
  | .stretch start =>
      let name := slice whole start offset
      if char = ']' then some (.behindStretch, { directive with stretch := some name })
      else if char = '\x7b' then
        some (.field (offset + 1),
          { directive with stretch := if name.isEmpty then none else some name })
      else some held
  | .field start =>
      if char = '\x7d' then
        (fieldQuery? (slice whole start offset)).map fun query =>
          (.behindField, { directive with fields := directive.fields ++ [query] })
      else some held
  | .behindField => if char = ']' then some (.behindStretch, directive) else none
  | .behindStretch => if char = '=' then some (.level (offset + 1), directive) else none
  | .level _ => some held

/-- A level, a target, or a target with a level; without a level all is shown.  Blanks
around a directive are passed over when it is read but stay in its parts, which are cut
out by position from the text with the blanks. -/
def directive? (text : Text) : Option Directive := do
  let stop := (placed 0 text).length * 4
  match ← (placed 0 (Text.trim text)).foldlM (Directive.step text) (.start, {}) with
  | (.name start, directive) =>
      let word := slice text start stop
      match rankOf? word with
      | some rank => return { directive with rank }
      | none => return { directive with target := some word }
  | (.level start, directive) =>
      let level := slice text start stop
      if level.isEmpty then return directive
      else (rankOf? level).map fun rank => { directive with rank }
  | (.behindStretch, directive) => return directive
  | _ => none

end FixtureRunner.Log
