/-
The changes that lead from one list of lines to another.
-/

import FixtureRunner.Diff.Boundary
import FixtureRunner.Diff.Discard
import FixtureRunner.Diff.Line
import FixtureRunner.Search.Match
import Std.Data.TreeMap

namespace FixtureRunner.Diff

structure Change where
  left : Nat
  right : Nat
  deleted : Nat
  inserted : Nat
deriving DecidableEq

structure Options where
  spacing : Spacing := .exact
  ignoreCase : Bool := false
  ignoreBlankLines : Bool := false
  ignoredPatterns : List Search.Compiled := []
  tabSize : Nat := 8
  isMinimal : Bool := false

def commonFrom : List Line → List Line → Nat → Nat
  | left :: lefts, right :: rights, count =>
      if left = right then commonFrom lefts rights (count + 1) else count
  | _, _, count => count

def commonStart (lefts rights : List Line) : Nat :=
  commonFrom lefts rights 0

/-- A number for each line, equal for lines that are taken for equal. -/
def classify (options : Options) (lefts rights : List Line) : Array Nat × Array Nat :=
  let number (state : Std.TreeMap Bytes Nat × Array Nat) (line : Line) :=
    let (complete, content) := line.key options.spacing options.ignoreCase options.tabSize
    let key := (if complete then 1 else 0) :: content
    match state.1[key]? with
    | some found => (state.1, state.2.push found)
    | none => (state.1.insert key (state.1.size + 1), state.2.push (state.1.size + 1))
  let (known, left) := lefts.foldl number (∅, #[])
  let (_, right) := rights.foldl number (known, #[])
  (left, right)

def tally (classes : Array Nat) : Std.TreeMap Nat Nat :=
  classes.foldl (fun counts line => counts.insert line (counts.getD line 0 + 1)) ∅

/-- Marks the changed lines of two lists: unusual lines are matched first, and the runs
then moved to where they read best. -/
def markChanges (isMinimal : Bool) (left right : Array Nat) : Marks :=
  let leftCounts := tally left
  let rightCounts := tally right
  let setAside (classes : Array Nat) (counts : Std.TreeMap Nat Nat) : Array Bool :=
    if isMinimal then Array.replicate classes.size false
    else (dropped (classes.toList.map (counts.getD · 0))).toArray
  let leftDropped := setAside left rightCounts
  let rightDropped := setAside right leftCounts
  let kept (marks : Array Bool) : Array Nat :=
    ((List.range marks.size).filter fun index => !marked marks index).toArray
  let leftKept := kept leftDropped
  let rightKept := kept rightDropped
  let inner := unmatched (leftKept.map (left.getD · 0)) (rightKept.map (right.getD · 0))
  let spread (marks inner : Array Bool) (indexes : Array Nat) : Array Bool :=
    (List.range indexes.size).foldl (fun spread index =>
      if marked inner index then spread.setIfInBounds (indexes.getD index 0) true else spread) marks
  shiftBoundaries left right
    { left := spread leftDropped inner.left leftKept
      right := spread rightDropped inner.right rightKept }

/-- The changes from marks, both files read from the end; `room` bounds the lines. -/
def changesFrom (marks : Marks) : Nat → Nat → Nat → List Change → List Change
  | 0, _, _, found => found
  | room + 1, left, right, found =>
      let leftStart := runStart marks.left left left
      let rightStart := runStart marks.right right right
      let extended :=
        if leftStart < left || rightStart < right then
          ⟨leftStart, rightStart, left - leftStart, right - rightStart⟩ :: found
        else
          found
      if leftStart = 0 && rightStart = 0 then extended
      else changesFrom marks room (leftStart - 1) (rightStart - 1) extended

/-- The changes between two lists of lines.  Equal lines at both ends are left out of the
search except for `context` of them. -/
def changes (options : Options) (context : Nat) (lefts rights : List Line) : List Change :=
  let start := commonStart lefts rights - context
  let leftRest := lefts.drop start
  let rightRest := rights.drop start
  let endsAlike := (lefts.getLast?.map (·.complete)).getD true = (rights.getLast?.map (·.complete)).getD true
  let alike := commonStart leftRest.reverse rightRest.reverse
  let stop := if endsAlike then alike - context else 0
  let (left, right) := classify options (leftRest.take (leftRest.length - stop))
    (rightRest.take (rightRest.length - stop))
  let marks := markChanges options.isMinimal left right
  (changesFrom marks (left.size + right.size + 1) left.size right.size []).map fun change =>
    { change with left := change.left + start, right := change.right + start }

end FixtureRunner.Diff
