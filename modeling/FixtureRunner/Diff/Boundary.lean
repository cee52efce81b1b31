/-
Moving runs of changed lines without changing what they mean: a run that can slide over
equal lines is joined with its neighbours and moved as far down as possible, or to where
a run of the other file stands.
-/

import FixtureRunner.Diff.Middle

namespace FixtureRunner.Diff

/-- A run of marked lines in one file and the place it corresponds to in the other. -/
structure Run where
  marks : Array Bool
  start : Nat
  stop : Nat
  other : Nat

def marked (marks : Array Bool) (index : Nat) : Bool :=
  marks.getD index false

def freeAfter (marks : Array Bool) : Nat → Nat → Nat
  | 0, index => index
  | room + 1, index => if marked marks index then freeAfter marks room (index + 1) else index

def freeBefore (marks : Array Bool) : Nat → Nat → Nat
  | 0, index => index - 1
  | room + 1, index =>
      if marked marks (index - 1) then freeBefore marks room (index - 1) else index - 1

def runStart (marks : Array Bool) : Nat → Nat → Nat
  | 0, index => index
  | room + 1, index =>
      if index ≠ 0 && marked marks (index - 1) then runStart marks room (index - 1) else index

variable (classes : Array Nat) (others : Array Bool)

def sameClass (left right : Nat) : Bool :=
  classes.getD left 0 = classes.getD right 0

def Run.up (run : Run) : Run :=
  let marks := (run.marks.setIfInBounds (run.start - 1) true).setIfInBounds (run.stop - 1) false
  { marks
    start := run.start - 1
    stop := run.stop - 1
    other := freeBefore others (others.size + 1) run.other }

/-- Moves a run up while the line above equals its last one, joining runs on the way. -/
def Run.slideUp : Nat → Run → Run
  | 0, run => run
  | room + 1, run =>
      if run.start ≠ 0 && sameClass classes (run.start - 1) (run.stop - 1) then
        let moved := run.up others
        Run.slideUp room { moved with start := runStart moved.marks moved.start moved.start }
      else
        run

/-- Moves a run down while the line below equals its first one, joining runs on the way,
and notes the last end at which it met a run of the other file. -/
def Run.slideDown : Nat → Run → Nat → Run × Nat
  | 0, run, corresponding => (run, corresponding)
  | room + 1, run, corresponding =>
      if run.stop ≠ classes.size && sameClass classes run.start run.stop then
        let marks := (run.marks.setIfInBounds run.start false).setIfInBounds run.stop true
        let stop := freeAfter marks (classes.size + 1) (run.stop + 1)
        let other := freeAfter others (others.size + 1) (run.other + 1)
        let met := run.other + 1 < other
        Run.slideDown room { marks, start := run.start + 1, stop, other }
          (if met then stop else corresponding)
      else
        (run, corresponding)

def Run.settle : Nat → Run → Run × Nat
  | 0, run => (run, run.stop)
  | room + 1, run =>
      let upper := run.slideUp classes others (classes.size + 1)
      let corresponding :=
        if upper.other ≠ 0 && marked others (upper.other - 1) then upper.stop else classes.size
      let (lower, met) := upper.slideDown classes others (classes.size + 1) corresponding
      if lower.stop - lower.start = run.stop - run.start then (lower, met)
      else Run.settle room lower

/-- Moves a settled run up to where it meets a run of the other file. -/
def Run.backTo (corresponding : Nat) : Nat → Run → Run
  | 0, run => run
  | room + 1, run =>
      if corresponding < run.stop then Run.backTo corresponding room (run.up others) else run

/-- The place in the other file that corresponds to the start of a run, `skipped` unmarked
lines further on. -/
def skipFree : Nat → Nat → Nat
  | 0, other => other
  | skipped + 1, other => skipFree skipped (freeAfter others (others.size + 1) other + 1)

/-- Settles all runs from a place on. -/
def settleRuns : Nat → Array Bool → Nat → Nat → Array Bool
  | 0, marks, _, _ => marks
  | room + 1, marks, index, other =>
      let start := (List.range' index (classes.size - index)).find? (marked marks) |>.getD classes.size
      let reached := skipFree others (start - index) other
      if start = classes.size then
        marks
      else
        let stop := freeAfter marks (classes.size + 1) start
        let corresponding := freeAfter others (others.size + 1) reached
        let (settled, met) :=
          ({ marks, start, stop, other := corresponding } : Run).settle classes others
            (classes.size + 1)
        let final := settled.backTo others met (classes.size + 1)
        settleRuns room final.marks final.stop final.other

def shiftBoundaries (leftClasses rightClasses : Array Nat) (marks : Marks) : Marks :=
  let left := settleRuns leftClasses marks.right (leftClasses.size + 1) marks.left 0 0
  let right := settleRuns rightClasses left (rightClasses.size + 1) marks.right 0 0
  { left, right }

end FixtureRunner.Diff
