/-
Finding an expression in a text: the leftmost match, and of those that start there the
longest one.
-/

import FixtureRunner.Search.Expression

namespace FixtureRunner.Search

open Bracketed (Member)

structure Field where
  text : Array Char
  ignoreCase : Bool := false
  multiline : Bool := false

namespace Field

def charAt? (field : Field) (position : Nat) : Option Char :=
  field.text[position]?

def sameChar (field : Field) (left right : Char) : Bool :=
  left = right || (field.ignoreCase && left.toLower = right.toLower)

def admits (field : Field) (members : List Member) (char : Char) : Bool :=
  members.any (·.admits char) ||
    (field.ignoreCase &&
      (members.any (·.admits char.toLower) || members.any (·.admits char.toUpper)))

def isWordAt (field : Field) (position : Nat) : Bool :=
  (field.charAt? position).any isWordChar

def isWordBefore (field : Field) (position : Nat) : Bool :=
  0 < position && field.isWordAt (position - 1)

def holdsAt (field : Field) (position : Nat) : Expression → Bool
  | .lineStart =>
      position = 0 || (field.multiline && field.charAt? (position - 1) = some '\n')
  | .lineStop =>
      position = field.text.size || (field.multiline && field.charAt? position = some '\n')
  | .textStart => position = 0
  | .textStop => position = field.text.size
  | .wordStart => !field.isWordBefore position && field.isWordAt position
  | .wordStop => field.isWordBefore position && !field.isWordAt position
  | .wordEdge => field.isWordBefore position != field.isWordAt position
  | .noWordEdge => field.isWordBefore position == field.isWordAt position
  | _ => false

/-- Whether an expression for one character matches at a position; nothing if it is not for
one character. -/
def single? (field : Field) (position : Nat) : Expression → Option Bool
  | .char wanted => some ((field.charAt? position).any (field.sameChar wanted))
  | .any => some (field.charAt? position).isSome
  | .set negated members =>
      some ((field.charAt? position).any fun char => field.admits members char != negated)
  | _ => none

end Field

def refers : Nat → Expression → Bool
  | 0, _ => false
  | room + 1, expression =>
      match expression with
      | .reference _ => true
      | .group _ body => refers room body
      | .repeated body _ _ => refers room body
      | .chain parts => parts.any (refers room)
      | .choice parts => parts.any (refers room)
      | _ => false

def nesting : Nat := Nat.pow 2 30

/-! ### Where matches can end -/

def joined : List Nat → List Nat → List Nat
  | left, right => (left ++ right).mergeSort.eraseReps

/-- The positions that repeating a step can reach, from those just reached; `room` bounds the
rounds. -/
def reachable (step : List Nat → List Nat) : Nat → List Nat → Array Bool → List Nat → List Nat
  | 0, _, _, found => found
  | room + 1, frontier, seen, found =>
      let next := (step frontier).filter fun position => !seen.getD position true
      if next.isEmpty then
        found
      else
        let marked := next.foldl (fun marks position => marks.setIfInBounds position true) seen
        reachable step room next marked (found ++ next)

def upTo (step : List Nat → List Nat) : Nat → List Nat → List Nat → List Nat
  | 0, _, found => found
  | count + 1, frontier, found =>
      let next := step frontier
      if next.isEmpty then found else upTo step count next (joined found next)

def exactly (step : List Nat → List Nat) : Nat → List Nat → List Nat
  | 0, positions => positions
  | count + 1, positions => if positions.isEmpty then [] else exactly step count (step positions)

/-- Where an expression without references can end that starts at one of the positions;
`room` bounds the nesting. -/
def endsFrom (field : Field) : Nat → Expression → List Nat → List Nat
  | 0, _, _ => []
  | room + 1, expression, positions =>
      match expression with
      | .group _ body => endsFrom field room body positions
      | .reference _ => []
      | .chain parts => parts.foldl (fun reached part => endsFrom field room part reached) positions
      | .choice parts =>
          parts.foldl (fun reached part => joined reached (endsFrom field room part positions)) []
      | .repeated body least most =>
          let step := endsFrom field room body
          let start := exactly step least positions
          match most with
          | some limit => upTo step (limit - least) start start
          | none =>
              let size := field.text.size + 1
              let marks := start.foldl (fun marks position => marks.setIfInBounds position true)
                (Array.replicate size false)
              (reachable step size start marks start).mergeSort.eraseReps
      | other =>
          positions.filterMap fun position =>
            match field.single? position other with
            | some true => some (position + 1)
            | some false => none
            | none => if field.holdsAt position other then some position else none

/-! ### Which parts have matched -/

abbrev Groups := List (Nat × Nat × Nat)

inductive Step where
  | one (expression : Expression)
  | close (number start : Nat)
  | again (body : Expression) (least : Nat) (most : Option Nat) (start : Nat)

/-- Matches steps from a position to the goal, trying longer repetitions first; `room` bounds
the steps. -/
def follow (field : Field) (goal : Nat) : Nat → List Step → Nat → Groups → Option Groups
  | 0, _, _, _ => none
  | _ + 1, [], position, groups => if position = goal then some groups else none
  | room + 1, step :: rest, position, groups =>
      if goal < position then none
      else
      match step with
      | .close number start =>
          follow field goal room rest position
            ((number, start, position) :: groups.filter (·.1 ≠ number))
      | .again body least most start =>
          let once (least : Nat) : Option Groups :=
            follow field goal room
              (.one body :: .again body least (most.map (· - 1)) position :: rest) position groups
          if 0 < least then
            once (least - 1)
          else if most = some 0 || position = start then
            follow field goal room rest position groups
          else
            (once 0).or (follow field goal room rest position groups)
      | .one expression =>
          match expression with
          | .group number body =>
              follow field goal room (.one body :: .close number position :: rest) position groups
          | .chain parts => follow field goal room (parts.map .one ++ rest) position groups
          | .choice parts =>
              parts.findSome? fun part => follow field goal room (.one part :: rest) position groups
          | .repeated body least most =>
              let start := field.text.size + 1
              follow field goal room (.again body least most start :: rest) position groups
          | .reference number =>
              match groups.lookup number with
              | none => none
              | some (start, stop) =>
                  let length := stop - start
                  let isSame := (List.range length).all fun offset =>
                    match field.charAt? (start + offset), field.charAt? (position + offset) with
                    | some left, some right => field.sameChar left right
                    | _, _ => false
                  if isSame then follow field goal room rest (position + length) groups else none
          | other =>
              match field.single? position other with
              | some true => follow field goal room rest (position + 1) groups
              | some false => none
              | none =>
                  if field.holdsAt position other then follow field goal room rest position groups
                  else none

structure Found where
  start : Nat
  stop : Nat
  groups : Groups := []

def stepBound : Nat := Nat.pow 2 40

def matchAt (field : Field) (compiled : Compiled) (hasReferences wantsGroups : Bool) (start : Nat) :
    Option Found :=
  if hasReferences then
    let goals := ((List.range (field.text.size + 1)).drop start).reverse
    goals.findSome? fun goal =>
      (follow field goal stepBound [.one compiled.body] start []).map fun groups =>
        { start, stop := goal, groups }
  else
    match (endsFrom field nesting compiled.body [start]).getLast? with
    | none => none
    | some stop =>
        if wantsGroups && 0 < compiled.groups then
          let groups := (follow field stop stepBound [.one compiled.body] start []).getD []
          some { start, stop, groups }
        else
          some { start, stop }

def matchFrom (field : Field) (compiled : Compiled) (hasReferences wantsGroups : Bool) :
    Nat → Nat → Option Found
  | 0, _ => none
  | room + 1, start =>
      if field.text.size < start then none
      else
        (matchAt field compiled hasReferences wantsGroups start).or
          (matchFrom field compiled hasReferences wantsGroups room (start + 1))

def find? (field : Field) (compiled : Compiled) (wantsGroups : Bool) (start : Nat) : Option Found :=
  matchFrom field compiled (refers nesting compiled.body) wantsGroups (field.text.size + 2) start

end FixtureRunner.Search
