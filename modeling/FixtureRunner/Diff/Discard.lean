/-
Lines that are set aside before two files are matched: those without any counterpart,
and common ones among them, which would only invite accidental matches.
-/

namespace FixtureRunner.Diff

inductive Fate where
  | keep
  | drop
  | perhaps
deriving DecidableEq

/-- How often a number can be divided by four before nothing is left, not counting the
last time; `room` bounds the divisions. -/
def quarterings : Nat → Nat → Nat
  | 0, _ => 0
  | room + 1, number => if number / 4 = 0 then 0 else quarterings room (number / 4) + 1

def commonLimit (lineCount : Nat) : Nat :=
  5 * Nat.pow 2 (quarterings lineCount (lineCount / 64))

def firstFates (counterparts : List Nat) : List Fate :=
  let limit := commonLimit counterparts.length
  counterparts.map fun count =>
    if count = 0 then .drop else if limit < count then .perhaps else .keep

def keepDoubtful (fates : List Fate) : List Fate :=
  fates.map fun fate => if fate = .perhaps then .keep else fate

def stretchLimit (runLength : Nat) : Nat :=
  Nat.pow 2 (quarterings runLength (runLength / 4)) + 1

/-- Keeps the stretches of doubtful lines that reach the limit; `stretch` is the one being
read. -/
def keepStretches (limit : Nat) (stretch : Nat) : List Fate → List Fate
  | [] => List.replicate stretch (if limit ≤ stretch then .keep else .perhaps)
  | fate :: rest =>
      if fate = .perhaps then
        keepStretches limit (stretch + 1) rest
      else
        List.replicate stretch (if limit ≤ stretch then .keep else .perhaps) ++
          fate :: keepStretches limit 0 rest

/-- Keeps doubtful lines from the start of a run up to three dropped lines in a row, or
up to the first dropped line after eight. -/
def keepFromStart : Nat → Nat → List Fate → List Fate
  | _, _, [] => []
  | position, dropped, fate :: rest =>
      match fate with
      | .perhaps => .keep :: keepFromStart (position + 1) 0 rest
      | .keep => .keep :: keepFromStart (position + 1) 0 rest
      | .drop =>
          if 8 ≤ position ∨ dropped = 2 then .drop :: rest
          else .drop :: keepFromStart (position + 1) (dropped + 1) rest

def settleRun (run : List Fate) : List Fate :=
  if run.length < 4 * run.count .perhaps then
    keepDoubtful run
  else
    let stretched := keepStretches (stretchLimit run.length) 0 run
    (keepFromStart 0 0 (keepFromStart 0 0 stretched).reverse).reverse

def settleFates : Nat → List Fate → List Fate
  | 0, fates => keepDoubtful fates
  | room + 1, fates =>
      let (front, fromRun) := fates.span (· ≠ .drop)
      let (run, rest) := fromRun.span (· ≠ .keep)
      let doubtful := run.reverse.takeWhile (· = .perhaps)
      let core := run.take (run.length - doubtful.length)
      keepDoubtful front ++ settleRun core ++ keepDoubtful doubtful ++
        (if rest.isEmpty then [] else settleFates room rest)

def dropped (counterparts : List Nat) : List Bool :=
  (settleFates (counterparts.length + 1) (firstFates counterparts)).map (· ≠ .keep)

end FixtureRunner.Diff
