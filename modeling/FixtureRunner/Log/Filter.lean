/-
Which events are shown.

Of the directives of a filter that concern an event the most specific decides: the one
with the longest target, then the one that asks for most fields; of two alike the later
one.  Work is not divided into stretches here, so that a directive confined to one, or to
the value of a field of one, concerns nothing.
-/

import FixtureRunner.Log.Directive

namespace FixtureRunner.Log

/-- Reads a filter: directives separated by commas.  A bad directive spoils all of it, and
a filter without directives shows errors only. -/
def Filter.parse? (text : String) : Option (List Directive) := do
  let parts := (Text.fields ',' text.toList).filter (· ≠ [])
  let directives ← parts.mapM directive?
  return if directives.isEmpty then [{ rank := 1 }] else directives

/-- The filter for a count of requests for more: nothing below warnings, then debugging
events, then all. -/
def Filter.ofVerbosity : Nat → List Directive
  | 0 => [{ target := some "tstrun".toList, rank := 2 }]
  | 1 => [{ target := some "tstrun".toList, rank := 4 }]
  | _ => [{ target := some "tstrun".toList, rank := 5 }]

def Event.fieldNames (event : Event) : List Text :=
  "message".toList :: event.fields.map (·.1.toList)

def Directive.concerns (directive : Directive) (event : Event) : Bool :=
  directive.stretch.isNone &&
    directive.fields.all (fun query =>
      query.value.isNone && event.fieldNames.contains query.name) &&
    (match directive.target with
      | none => true
      | some target => target.isPrefixOf event.source.name.toList)

/-- Whether a directive is at least as specific as another that concerns the same event. -/
def Directive.outranks (directive other : Directive) : Bool :=
  let weight (held : Directive) : Nat := (held.target.map (·.length + 1)).getD 0
  let names (held : Directive) : List Text := held.fields.map (·.name)
  if weight directive ≠ weight other then weight other < weight directive
  else if directive.fields.length ≠ other.fields.length then
    other.fields.length < directive.fields.length
  else !decide (names directive < names other)

def shows (filter : List Directive) (event : Event) : Bool :=
  let decisive := (filter.filter (·.concerns event)).foldl
    (fun best directive =>
      match best with
      | none => some directive
      | some held => if directive.outranks held then some directive else best) none
  match decisive with
  | none => false
  | some directive => event.level.rank ≤ directive.rank

end FixtureRunner.Log
