/-
Differences as hunks of lines: in plain form, with context, or as commands for an editor.
-/

import FixtureRunner.Diff.Change

namespace FixtureRunner.Diff

structure Layout where
  expandsTabs : Bool := false
  /-- A tab stands behind the mark of a line, so that the tabs of the line line up. -/
  initialTab : Bool := false
  tabSize : Nat := 8
  suppressesBlanks : Bool := false
  headings : List Search.Compiled := []

def spell (text : String) : Bytes :=
  Text.toBytes text

def decimal (number : Nat) : Bytes :=
  spell (toString number)

def newline : Bytes := [0x0A]

def Layout.text (layout : Layout) (line : Line) : Bytes :=
  if layout.expandsTabs then expanded layout.tabSize line.content else line.content

def lineEnd (line : Line) : Bytes :=
  if line.complete then newline else spell "\n\\ No newline at end of file\n"

def Layout.suppresses (layout : Layout) (line : Line) : Bool :=
  layout.suppressesBlanks && line.content.isEmpty && line.complete

def Layout.marked (layout : Layout) (mark : String) (line : Line) : Bytes :=
  (if layout.suppresses line then (if mark = " " then [] else spell mark)
    else spell mark ++ (if layout.initialTab then [0x09] else [0x20])) ++
    layout.text line ++ lineEnd line

def Layout.markedLines (layout : Layout) (mark : String) (lines : Array Line) (start count : Nat) :
    Bytes :=
  (lines.extract start (start + count)).toList.flatMap (layout.marked mark)

def Layout.plainLines (layout : Layout) (lines : Array Line) (start count : Nat) : Bytes :=
  (lines.extract start (start + count)).toList.flatMap fun line =>
    layout.text line ++ (if line.complete then newline else [])

/-! ### Changes that do not count -/

def matchesPattern (line : Line) (pattern : Search.Compiled) : Bool :=
  (Search.find? { text := (Raw.ofBytes line.content).toArray } pattern false 0).isSome

def isIgnorable (options : Options) (line : Line) : Bool :=
  (options.ignoreBlankLines && line.isBlank options.spacing) ||
    options.ignoredPatterns.any (matchesPattern line)

def isTrivial (options : Options) (left right : Array Line) (change : Change) : Bool :=
  (options.ignoreBlankLines || !options.ignoredPatterns.isEmpty) &&
    (left.extract change.left (change.left + change.deleted)).all (isIgnorable options) &&
    (right.extract change.right (change.right + change.inserted)).all (isIgnorable options)

structure Judged where
  change : Change
  ignored : Bool

def judge (options : Options) (left right : Array Line) (found : List Change) : List Judged :=
  found.map fun change => { change, ignored := isTrivial options left right change }

/-! ### Plain form -/

def range (joint : String) (start count : Nat) : Bytes :=
  if count ≤ 1 then decimal (start + count)
  else decimal (start + 1) ++ spell joint ++ decimal (start + count)

def Change.letter (change : Change) : Bytes :=
  spell (if change.deleted = 0 then "a" else if change.inserted = 0 then "d" else "c")

def normalHunk (layout : Layout) (left right : Array Line) (change : Change) : Bytes :=
  range "," change.left change.deleted ++ change.letter ++ range "," change.right change.inserted ++
    newline ++ layout.markedLines "<" left change.left change.deleted ++
    (if change.deleted ≠ 0 && change.inserted ≠ 0 then spell "---\n" else []) ++
    layout.markedLines ">" right change.right change.inserted

/-! ### Commands for an editor -/

/-- Lines that are put in with an editor: one that is a single point would end the input and
is written with another, which is taken away again. -/
def insertedLines (layout : Layout) : List Line → Bool → Bytes
  | [], isOpen => if isOpen then spell ".\n" else []
  | line :: rest, isOpen =>
      let lead := if isOpen then [] else spell "a\n"
      if line.content = spell "." then
        lead ++ spell "..\n.\ns/.//\n" ++ insertedLines layout rest false
      else
        lead ++ layout.text line ++ newline ++ insertedLines layout rest true

def editorHunk (layout : Layout) (right : Array Line) (change : Change) : Bytes :=
  range "," change.left change.deleted ++ change.letter ++ newline ++
    (if change.inserted = 0 then []
      else insertedLines layout
        (right.extract change.right (change.right + change.inserted)).toList true)

def forwardHunk (layout : Layout) (right : Array Line) (change : Change) : Bytes :=
  change.letter ++ range " " change.left change.deleted ++ newline ++
    (if change.inserted = 0 then []
      else layout.plainLines right change.right change.inserted ++ spell ".\n")

def countedHunk (layout : Layout) (right : Array Line) (change : Change) : Bytes :=
  (if change.deleted = 0 then []
    else spell "d" ++ decimal (change.left + 1) ++ spell " " ++ decimal change.deleted ++ newline) ++
    (if change.inserted = 0 then []
      else spell "a" ++ decimal (change.left + change.deleted) ++ spell " " ++
        decimal change.inserted ++ newline ++
        layout.plainLines right change.right change.inserted)

/-! ### With context -/

/-- Changes so close that their contexts meet stand in one hunk; next to an ignored change
only its own context counts. -/
def hunks (context : Nat) : List Judged → List (List Judged)
  | [] => []
  | [only] => [[only]]
  | first :: next :: rest =>
      let gap := next.change.left - (first.change.left + first.change.deleted)
      let limit := if first.ignored || next.ignored then context else 2 * context + 1
      match hunks context (next :: rest) with
      | [] => [[first]]
      | hunk :: others => if gap < limit then (first :: hunk) :: others else [first] :: hunk :: others

structure HunkArea where
  left : Nat
  leftStop : Nat
  right : Nat
  rightStop : Nat

def areaOf (context : Nat) (left right : Array Line) (hunk : List Change) : HunkArea :=
  match hunk.head?, hunk.getLast? with
  | some first, some last =>
      { left := first.left - context
        leftStop := min left.size (last.left + last.deleted + context)
        right := first.right - context
        rightStop := min right.size (last.right + last.inserted + context) }
  | _, _ => { left := 0, leftStop := 0, right := 0, rightStop := 0 }

/-- The search for the line that heads a hunk: where the last search started, and what it
found. -/
structure HeadingSearch where
  searched : Nat := 0
  found : Option Nat := none

def headingBefore (layout : Layout) (left : Array Line) (least : Nat) : Nat → Option Nat
  | 0 => none
  | index + 1 =>
      if index < least then none
      else if layout.headings.any fun pattern =>
          (left[index]?).any fun line => matchesPattern line pattern then
        some index
      else
        headingBefore layout left least index

def Layout.heading (layout : Layout) (left : Array Line) (start : Nat) (search : HeadingSearch) :
    Option Nat × HeadingSearch :=
  if layout.headings.isEmpty then
    (none, search)
  else
    match headingBefore layout left search.searched start with
    | some index => (some index, { searched := start, found := some index })
    | none => (search.found, { search with searched := start })

def headingWidth : Nat := 40

def headingText (left : Array Line) (heading : Option Nat) : Bytes :=
  match heading.bind (left[·]?) with
  | none => []
  | some line => spell " " ++ trimEnd ((line.content.dropWhile isSpace).take headingWidth)

/-- Start and length of a range, which is named by its start alone if it has one line. -/
def unifiedRange (start stop : Nat) : Bytes :=
  if stop ≤ start then decimal start ++ spell ",0"
  else if stop = start + 1 then decimal stop
  else decimal (start + 1) ++ spell "," ++ decimal (stop - start)

def unifiedLine (layout : Layout) (mark : Bytes) (line : Line) : Bytes :=
  (if mark.isEmpty then
    (if layout.suppresses line then [] else if layout.initialTab then [0x09] else [0x20])
  else
    mark ++ (if layout.initialTab && !layout.suppresses line then [0x09] else [])) ++
    layout.text line ++ lineEnd line

def unifiedLines (layout : Layout) (mark : String) (lines : Array Line) (start count : Nat) : Bytes :=
  (lines.extract start (start + count)).toList.flatMap (unifiedLine layout (spell mark))

def unifiedBody (layout : Layout) (left right : Array Line) (stop : Nat) : Nat → List Change → Bytes
  | position, [] => unifiedLines layout "" left position (stop - position)
  | position, change :: rest =>
      unifiedLines layout "" left position (change.left - position) ++
        unifiedLines layout "-" left change.left change.deleted ++
        unifiedLines layout "+" right change.right change.inserted ++
        unifiedBody layout left right stop (change.left + change.deleted) rest

def unifiedHunk (layout : Layout) (left right : Array Line) (area : HunkArea) (heading : Option Nat)
    (hunk : List Change) : Bytes :=
  spell "@@ -" ++ unifiedRange area.left area.leftStop ++ spell " +" ++
    unifiedRange area.right area.rightStop ++ spell " @@" ++ headingText left heading ++ newline ++
    unifiedBody layout left right area.leftStop area.left hunk

/-- First and last line of a range, or only the last if there is no more than one. -/
def contextRange (start stop : Nat) : Bytes :=
  if stop ≤ start + 1 then decimal stop else decimal (start + 1) ++ spell "," ++ decimal stop

/-- One side of a hunk: `place` and `size` tell where a change stands on this side and how
many lines it has here, `other` how many it has on the other side. -/
def contextSide (layout : Layout) (lines : Array Line) (start stop : Nat) (mark : String)
    (place size other : Change → Nat) (hunk : List Change) : Bytes :=
  (List.range' start (stop - start)).flatMap fun index =>
    let change? := hunk.find? fun change => place change ≤ index && index < place change + size change
    let shown :=
      match change? with
      | some change => if other change = 0 then mark else "!"
      | none => " "
    match lines[index]? with
    | some line => layout.marked shown line
    | none => []

def contextHunk (layout : Layout) (left right : Array Line) (area : HunkArea) (heading : Option Nat)
    (hunk : List Change) : Bytes :=
  spell "***************" ++ headingText left heading ++ newline ++
    spell "*** " ++ contextRange area.left area.leftStop ++ spell " ****\n" ++
    (if hunk.all (·.deleted = 0) then []
      else contextSide layout left area.left area.leftStop "-" Change.left Change.deleted Change.inserted
        hunk) ++
    spell "--- " ++ contextRange area.right area.rightStop ++ spell " ----\n" ++
    (if hunk.all (·.inserted = 0) then []
      else contextSide layout right area.right area.rightStop "+" Change.right Change.inserted
        Change.deleted hunk)

def contextHunks (layout : Layout) (context : Nat) (left right : Array Line)
    (write : HunkArea → Option Nat → List Change → Bytes) (judged : List Judged) : Bytes :=
  let shown := (hunks context judged).filter fun hunk => hunk.any (!·.ignored)
  (shown.foldl (fun (texts, search) hunk =>
    let changed := hunk.map (·.change)
    let area := areaOf context left right changed
    let (heading, after) := layout.heading left area.left search
    (write area heading changed :: texts, after)) (([] : List Bytes), ({} : HeadingSearch))).1.reverse.flatten

end FixtureRunner.Diff
