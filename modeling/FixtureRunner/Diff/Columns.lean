/-
Two files side by side: lines that belong together stand in one row, with a sign between
them that tells what has happened.
-/

import FixtureRunner.Diff.Hunk

namespace FixtureRunner.Diff

structure Columns where
  width : Nat := 130
  onlyLeft : Bool := false
  onlyChanged : Bool := false

structure Halves where
  width : Nat
  second : Nat

def gutter : Nat := 3

def Columns.halves (columns : Columns) (layout : Layout) : Halves :=
  let unit := if layout.expandsTabs then 1 else layout.tabSize
  let whole := columns.width
  let least := unit + gutter
  let unaligned := whole / 2 + least / 2 + (if whole % 2 = 1 && least % 2 = 1 then 1 else 0)
  let offset := unaligned - unaligned % unit
  let width := if offset ≤ gutter || whole ≤ offset then 0 else min (offset - gutter) (whole - offset)
  { width, second := if width = 0 then whole else offset }

/-- Blanks from a column to another; `room` bounds the tabs. -/
def blanks (layout : Layout) : Nat → Nat → Nat → Bytes
  | 0, place, stop => List.replicate (stop - place) 0x20
  | room + 1, place, stop =>
      let next := place + layout.tabSize - place % layout.tabSize
      if !layout.expandsTabs && next ≤ stop then 0x09 :: blanks layout room next stop
      else List.replicate (stop - place) 0x20

def blanksTo (layout : Layout) (place stop : Nat) : Bytes :=
  blanks layout (stop + 1) place stop

structure HalfPlace where
  inside : Nat := 0
  outside : Nat := 0
  written : Bytes := []

def halfByte (layout : Layout) (indent bound : Nat) (place : HalfPlace) (byte : UInt8) : HalfPlace :=
  if byte = 0x09 then
    let width := layout.tabSize - place.inside % layout.tabSize
    let next := { place with inside := place.inside + width }
    if place.inside = place.outside then
      let stop := place.outside + width
      if layout.expandsTabs then
        let reached := min bound stop
        { next with
          outside := max reached place.outside
          written := List.replicate (reached - place.outside) 0x20 ++ place.written }
      else if stop < bound then
        { next with outside := stop, written := byte :: place.written }
      else
        next
    else
      next
  else if byte = 0x0D then
    { inside := 0, outside := 0, written := (blanksTo layout 0 indent).reverse ++ byte :: place.written }
  else if byte = 0x08 then
    if place.inside = 0 then
      place
    else
      let inside := place.inside - 1
      if bound ≤ inside then { place with inside }
      else if place.outside ≤ inside then
        { inside
          outside := inside
          written := List.replicate (inside - place.outside) 0x20 ++ place.written }
      else
        { inside, outside := inside, written := byte :: place.written }
  else if 0x20 ≤ byte && byte < 0x7F then
    if place.inside < bound then
      { inside := place.inside + 1, outside := place.inside + 1, written := byte :: place.written }
    else
      { place with inside := place.inside + 1 }
  else if place.inside < bound then
    { place with written := byte :: place.written }
  else
    place

def halfLine (layout : Layout) (indent bound : Nat) (line : Line) : Bytes × Nat :=
  let place := line.content.foldl (halfByte layout indent bound) {}
  (place.written.reverse, place.outside)

def row (layout : Layout) (halves : Halves) (left : Option Line) (sign : Char) (right : Option Line) : Bytes :=
  let (leftText, leftPlace) :=
    match left with
    | some line => halfLine layout 0 halves.width line
    | none => ([], 0)
  let leftComplete := left.any (·.complete)
  let rightComplete := right.any (·.complete)
  let (middle, middlePlace) : Bytes × Nat :=
    if sign = ' ' then
      ([], leftPlace)
    else
      let place := (halves.width + halves.second - 1) / 2
      let shown :=
        if sign = '|' && leftComplete != rightComplete then (if leftComplete then '/' else '\\') else sign
      (blanksTo layout leftPlace place ++ [UInt8.ofNat shown.toNat], max leftPlace place + 1)
  let rightText : Bytes :=
    match right with
    | some line =>
        if line.content.isEmpty && line.complete then []
        else
          blanksTo layout middlePlace halves.second ++
            (halfLine layout (max middlePlace halves.second) halves.width line).1
    | none => []
  leftText ++ middle ++ rightText ++ (if leftComplete || rightComplete then newline else [])

/-- Rows with the lines of both sides, then those of the longer side alone, with a sign for each. -/
def facingRows (layout : Layout) (halves : Halves) (lefts rights : List Line)
    (both onlyRight onlyLeft : Char) : Bytes :=
  let shared := min lefts.length rights.length
  ((lefts.zip rights).flatMap fun pair => row layout halves (some pair.1) both (some pair.2)) ++
    ((rights.drop shared).flatMap fun line => row layout halves none onlyRight (some line)) ++
    ((lefts.drop shared).flatMap fun line => row layout halves (some line) onlyLeft none)

def sharedRows (layout : Layout) (columns : Columns) (left right : Array Line)
    (leftStart leftStop rightStart rightStop : Nat) : Bytes :=
  let halves := columns.halves layout
  let lefts := (left.extract leftStart leftStop).toList
  let rights := (right.extract rightStart rightStop).toList
  if columns.onlyChanged then
    []
  else if columns.onlyLeft then
    lefts.flatMap fun line => row layout halves (some line) '(' none
  else
    facingRows layout halves lefts rights ' ' ')' '('

def changedRows (layout : Layout) (columns : Columns) (left right : Array Line) (change : Change) : Bytes :=
  facingRows layout (columns.halves layout)
    (left.extract change.left (change.left + change.deleted)).toList
    (right.extract change.right (change.right + change.inserted)).toList '|' '>' '<'

def rowsFrom (layout : Layout) (columns : Columns) (left right : Array Line) :
    Nat → Nat → List Change → Bytes
  | leftPlace, rightPlace, [] =>
      sharedRows layout columns left right leftPlace left.size rightPlace right.size
  | leftPlace, rightPlace, change :: rest =>
      sharedRows layout columns left right leftPlace change.left rightPlace change.right ++
        changedRows layout columns left right change ++
        rowsFrom layout columns left right (change.left + change.deleted)
          (change.right + change.inserted) rest

end FixtureRunner.Diff
