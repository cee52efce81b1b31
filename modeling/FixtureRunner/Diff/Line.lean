/-
Lines as they are compared: white space may count fully, as the columns it leads to, at
line ends not at all, as one space, or not at all.
-/

import FixtureRunner.Text.Bytes

namespace FixtureRunner.Diff

structure Line where
  content : Bytes
  complete : Bool := true
deriving DecidableEq

/-- What white space means in a comparison, from the most to the least. -/
inductive Spacing where
  | exact
  /-- Only the columns that tabs and spaces lead to count. -/
  | asColumns
  | ignoreTrailing
  | ignoreAmount
  | ignoreAll
deriving DecidableEq

def Spacing.withColumns : Spacing → Spacing
  | .exact => .asColumns
  | spacing => spacing

def Spacing.withoutTrailing : Spacing → Spacing
  | .exact | .asColumns => .ignoreTrailing
  | spacing => spacing

def Spacing.withoutAmount : Spacing → Spacing
  | .ignoreAll => .ignoreAll
  | _ => .ignoreAmount

def isSpace (byte : UInt8) : Bool :=
  byte = 0x20 || (0x09 ≤ byte && byte ≤ 0x0D)

/-- The lines of a text from its end on: `current` is the line that is being read, and the
text is given backwards. -/
def linesFrom : Bytes → Line → List Line → List Line
  | [], current, found => current :: found
  | byte :: rest, current, found =>
      if byte = 0x0A then linesFrom rest { content := [] } (current :: found)
      else linesFrom rest { current with content := byte :: current.content } found

def lines (text : Bytes) : List Line :=
  match text.reverse with
  | [] => []
  | last :: rest =>
      if last = 0x0A then linesFrom rest { content := [] } []
      else linesFrom (last :: rest) { content := [], complete := false } []

def trimEnd (content : Bytes) : Bytes :=
  (content.reverse.dropWhile isSpace).reverse

def collapseFrom : Bool → Bytes → Bytes → Bytes
  | _, [], found => found
  | inRun, byte :: rest, found =>
      if isSpace byte then collapseFrom true rest (if inRun then found else 0x20 :: found)
      else collapseFrom false rest (byte :: found)

def collapse (content : Bytes) : Bytes :=
  (collapseFrom false content []).reverse

def expandFrom (tabSize : Nat) : Bytes → Nat → Bytes → Bytes
  | [], _, found => found
  | byte :: rest, place, found =>
      if byte = 0x09 then
        let width := tabSize - place % tabSize
        expandFrom tabSize rest (place + width) (List.replicate width 0x20 ++ found)
      else if byte = 0x08 then
        if place = 0 then expandFrom tabSize rest place found
        else expandFrom tabSize rest (place - 1) (byte :: found)
      else if byte = 0x0D then
        expandFrom tabSize rest 0 (byte :: found)
      else
        expandFrom tabSize rest (if 0x20 ≤ byte && byte < 0x7F then place + 1 else place) (byte :: found)

def expanded (tabSize : Nat) (content : Bytes) : Bytes :=
  (expandFrom tabSize content 0 []).reverse

def lower (byte : UInt8) : UInt8 :=
  if 0x41 ≤ byte && byte ≤ 0x5A then byte + 0x20 else byte

/-- What decides whether two lines are taken for equal.  A missing newline counts unless
white space at line ends does not. -/
def Line.key (spacing : Spacing) (ignoreCase : Bool) (tabSize : Nat) (line : Line) : Bool × Bytes :=
  let cased := if ignoreCase then line.content.map lower else line.content
  match spacing with
  | .exact => (line.complete, cased)
  | .asColumns => (line.complete, expanded tabSize cased)
  | .ignoreTrailing => (true, trimEnd cased)
  | .ignoreAmount => (true, collapse (trimEnd cased))
  | .ignoreAll => (true, cased.filter fun byte => !isSpace byte)

/-- A line that shows nothing, as far as white space counts. -/
def Line.isBlank (spacing : Spacing) (line : Line) : Bool :=
  match spacing with
  | .exact | .asColumns => line.content.isEmpty
  | _ => line.content.all isSpace

end FixtureRunner.Diff
