/-
The lines that two sequences do not share, found by divide and conquer: a shortest
path through the edit graph is searched from both ends at once, and where the two
searches meet the problem is divided.
-/

namespace FixtureRunner.Diff

structure Marks where
  left : Array Bool
  right : Array Bool

/-- How far a search has come on each diagonal, and the diagonals it is on. -/
structure Frontier where
  reach : Array Int
  least : Int
  most : Int

structure Area where
  left : Nat
  leftEnd : Nat
  right : Nat
  rightEnd : Nat

variable (leftClasses rightClasses : Array Nat)

def matchAt (left right : Nat) : Bool :=
  leftClasses.getD left 0 = rightClasses.getD right 0

def slot (diagonal : Int) : Nat :=
  (diagonal + rightClasses.size + 1).toNat

/-- Follows matches forwards; `room` bounds their number. -/
def runForward (area : Area) : Nat → Int → Int → Int
  | 0, left, _ => left
  | room + 1, left, right =>
      if left < area.leftEnd && right < area.rightEnd &&
          matchAt leftClasses rightClasses left.toNat right.toNat then
        runForward area room (left + 1) (right + 1)
      else
        left

def runBackward (area : Area) : Nat → Int → Int → Int
  | 0, left, _ => left
  | room + 1, left, right =>
      if area.left < left && area.right < right &&
          matchAt leftClasses rightClasses (left - 1).toNat (right - 1).toNat then
        runBackward area room (left - 1) (right - 1)
      else
        left

/-- Widens a frontier by a diagonal on each side that lies in the graph, and narrows it
on the others. -/
def widen (area : Area) (absent : Int) (frontier : Frontier) : Frontier :=
  let leastValid : Int := area.left - area.rightEnd
  let mostValid : Int := area.leftEnd - area.right
  let lowered : Frontier :=
    if leastValid < frontier.least then
      { frontier with
        least := frontier.least - 1
        reach := frontier.reach.setIfInBounds (slot rightClasses (frontier.least - 2)) absent }
    else
      { frontier with least := frontier.least + 1 }
  if lowered.most < mostValid then
    { lowered with
      most := lowered.most + 1
      reach := lowered.reach.setIfInBounds (slot rightClasses (lowered.most + 2)) absent }
  else
    { lowered with most := lowered.most - 1 }

/-- One step of a search on every second diagonal downwards: `start` is where it sets out from
what it has reached below and above, `follow` runs along matches.  It meets the other search
where `meets` holds of what both have reached, if it looks for it. -/
def step (looks : Bool) (start : Int → Int → Int) (follow : Int → Int → Int)
    (meets : Int → Int → Bool) (other : Frontier) :
    Nat → Int → Frontier → Frontier × Option (Int × Int)
  | 0, _, frontier => (frontier, none)
  | room + 1, diagonal, frontier =>
      if diagonal < frontier.least then
        (frontier, none)
      else
        let reached (searched : Frontier) (place : Int) : Int :=
          searched.reach.getD (slot rightClasses place) 0
        let begun := start (reached frontier (diagonal - 1)) (reached frontier (diagonal + 1))
        let left := follow begun (begun - diagonal)
        let moved := { frontier with
          reach := frontier.reach.setIfInBounds (slot rightClasses diagonal) left }
        if looks && other.least ≤ diagonal && diagonal ≤ other.most &&
            meets left (reached other diagonal) then
          (moved, some (left, left - diagonal))
        else
          step looks start follow meets other room (diagonal - 2) moved

def stepForward (area : Area) (odd : Bool) : Frontier → Nat → Int → Frontier →
    Frontier × Option (Int × Int) :=
  step rightClasses odd (fun below above => if below < above then above else below + 1)
    (runForward leftClasses rightClasses area (leftClasses.size + 1)) (fun here there => there ≤ here)

def stepBackward (area : Area) (odd : Bool) : Frontier → Nat → Int → Frontier →
    Frontier × Option (Int × Int) :=
  step rightClasses (!odd) (fun below above => if below < above then below else above - 1)
    (runBackward leftClasses rightClasses area (leftClasses.size + 1)) (fun here there => here ≤ there)

def meet (area : Area) (odd : Bool) : Nat → Frontier → Frontier → Int × Int
  | 0, _, _ => (area.left, area.right)
  | room + 1, forward, backward =>
      let diagonals := leftClasses.size + rightClasses.size + 3
      let wider := widen rightClasses area (-1) forward
      match stepForward leftClasses rightClasses area odd backward diagonals wider.most wider with
      | (_, some point) => point
      | (stepped, none) =>
          let absent : Int := leftClasses.size + rightClasses.size + 9
          let wider := widen rightClasses area absent backward
          match stepBackward leftClasses rightClasses area odd stepped diagonals wider.most wider with
          | (_, some point) => point
          | (steppedBack, none) => meet area odd room stepped steppedBack

def middle (area : Area) : Int × Int :=
  let forwardStart : Int := area.left - area.right
  let backwardStart : Int := area.leftEnd - area.rightEnd
  let blank := Array.replicate (leftClasses.size + rightClasses.size + 5) (0 : Int)
  let forward : Frontier :=
    { reach := blank.setIfInBounds (slot rightClasses forwardStart) area.left
      least := forwardStart
      most := forwardStart }
  let backward : Frontier :=
    { reach := blank.setIfInBounds (slot rightClasses backwardStart) area.leftEnd
      least := backwardStart
      most := backwardStart }
  let odd := (forwardStart - backwardStart) % 2 ≠ 0
  meet leftClasses rightClasses area odd (leftClasses.size + rightClasses.size + 2) forward backward

def markRange (marks : Array Bool) (start stop : Nat) : Array Bool :=
  (List.range' start (stop - start)).foldl (fun marked index => marked.setIfInBounds index true) marks

def Area.trim (area : Area) : Area :=
  let start := (runForward leftClasses rightClasses area (leftClasses.size + 1) area.left area.right).toNat
  let front : Area := { area with left := start, right := area.right + (start - area.left) }
  let stop := (runBackward leftClasses rightClasses front (leftClasses.size + 1) front.leftEnd
    front.rightEnd).toNat
  { front with leftEnd := stop, rightEnd := front.rightEnd - (front.leftEnd - stop) }

/-- Marks the lines of an area without counterpart; `room` bounds the divisions. -/
def markArea : Nat → Area → Marks → Marks
  | 0, _, marks => marks
  | room + 1, whole, marks =>
      let area := whole.trim leftClasses rightClasses
      if area.left = area.leftEnd then
        { marks with right := markRange marks.right area.right area.rightEnd }
      else if area.right = area.rightEnd then
        { marks with left := markRange marks.left area.left area.leftEnd }
      else
        let (left, right) := middle leftClasses rightClasses area
        let firstHalf : Area := { area with leftEnd := left.toNat, rightEnd := right.toNat }
        let secondHalf : Area := { area with left := left.toNat, right := right.toNat }
        markArea room secondHalf (markArea room firstHalf marks)

def unmatched : Marks :=
  markArea leftClasses rightClasses (leftClasses.size + rightClasses.size + 2)
    { left := 0, leftEnd := leftClasses.size, right := 0, rightEnd := rightClasses.size }
    { left := Array.replicate leftClasses.size false
      right := Array.replicate rightClasses.size false }

end FixtureRunner.Diff
