/-
Both files in one text, in which formats tell how groups of lines and single lines are
written.
-/

import FixtureRunner.Diff.Hunk

namespace FixtureRunner.Diff

inductive GroupKind where
  | old
  | new
  | changed
  | unchanged
deriving DecidableEq

structure Formats where
  oldGroup : Raw
  newGroup : Raw
  changedGroup : Raw
  unchangedGroup : Raw
  oldLine : Raw
  newLine : Raw
  unchangedLine : Raw

def Formats.conditional (name : Raw) : Formats :=
  let plain := "%l\n"
  let unless_ := "#ifndef " ++ name ++ "\n%<"
  { oldGroup := unless_ ++ "#endif /* ! " ++ name ++ " */\n"
    newGroup := "#ifdef " ++ name ++ "\n%>#endif /* " ++ name ++ " */\n"
    changedGroup := unless_ ++ "#else /* " ++ name ++ " */\n%>#endif /* " ++ name ++
      " */\n"
    unchangedGroup := "%="
    oldLine := plain
    newLine := plain
    unchangedLine := plain }

structure Stretch where
  left : Nat
  leftStop : Nat
  right : Nat
  rightStop : Nat

def Stretch.number? (stretch : Stretch) (letter : Char) : Option Nat :=
  let (start, stop) :=
    if letter.isLower then (stretch.left, stretch.leftStop) else (stretch.right, stretch.rightStop)
  match letter.toLower with
  | 'e' => some start
  | 'f' => some (start + 1)
  | 'l' => some stop
  | 'm' => some (stop + 1)
  | 'n' => some (stop - start)
  | _ => none

def quotedChar? : Raw → Option (Char × Raw)
  | '\'' :: '\\' :: rest =>
      let digits := Raw.octalDigits rest
      match rest.drop digits.length with
      | '\'' :: after =>
          if digits.isEmpty then none
          else some (Char.ofNat ((Raw.digits? 8 digits).getD 0 % 256), after)
      | _ => none
  | '\'' :: char :: '\'' :: rest => if char = '\'' then none else some (char, rest)
  | _ => none

structure NumberDirective where
  isLeft : Bool
  isZero : Bool
  width : Nat
  precision : Option Nat
  form : Char

def numberDirective? (text : Raw) : Option (NumberDirective × Raw) :=
  let flags := text.takeWhile fun char => char = '-' || char = '\''|| char = '0'
  let afterFlags := text.drop flags.length
  let width := afterFlags.takeWhile Char.isDigit
  let afterWidth := afterFlags.drop width.length
  let (precision, afterPrecision) : Option Raw × Raw :=
    match afterWidth with
    | '.' :: rest => (some (rest.takeWhile Char.isDigit), rest.dropWhile Char.isDigit)
    | _ => (none, afterWidth)
  match afterPrecision with
  | form :: rest =>
      if "doxX".toList.contains form then
        some ({ isLeft := flags.contains '-'
                isZero := flags.contains '0'
                width := (Raw.nat? width).getD 0
                precision := precision.map fun digits => (Raw.nat? digits).getD 0
                form }, rest)
      else
        none
  | [] => none

def NumberDirective.text (directive : NumberDirective) (number : Nat) : Raw :=
  let digits : Raw :=
    match directive.form with
    | 'o' => Nat.toDigits 8 number
    | 'x' => Nat.toDigits 16 number
    | 'X' => (Nat.toDigits 16 number).map Char.toUpper
    | _ => Raw.ofNat number
  let precise := List.replicate (directive.precision.getD 0 - digits.length) '0' ++ digits
  let padding := directive.width - precise.length
  if directive.isLeft then precise ++ List.replicate padding ' '
  else if directive.isZero && directive.precision.isNone then List.replicate padding '0' ++ precise
  else List.replicate padding ' ' ++ precise

def formattedLine (layout : Layout) (number : Nat) (line : Line) : Nat → Raw → Bytes
  | 0, _ => []
  | _ + 1, [] => []
  | room + 1, '%' :: rest =>
      let next := formattedLine layout number line room
      match rest with
      | '%' :: after => 0x25 :: next after
      | 'l' :: after => layout.text line ++ next after
      | 'L' :: after => layout.text line ++ (if line.complete then newline else []) ++ next after
      | 'c' :: quoted =>
          match quotedChar? quoted with
          | some (char, after) => UInt8.ofNat char.toNat :: next after
          | none => 0x25 :: next rest
      | _ =>
          match numberDirective? rest with
          | some (directive, 'n' :: after) => Raw.toBytes (directive.text number) ++ next after
          | _ => 0x25 :: next rest
  | room + 1, char :: rest => UInt8.ofNat char.toNat :: formattedLine layout number line room rest

def formattedLines (layout : Layout) (format : Raw) (lines : Array Line) (start stop : Nat) : Bytes :=
  (List.range' start (stop - start)).flatMap fun index =>
    match lines[index]? with
    | some line => formattedLine layout (index + 1) line (format.length + 1) format
    | none => []

def conditionNumber? (stretch : Stretch) (text : Raw) : Option (Nat × Raw) :=
  let digits := text.takeWhile Char.isDigit
  if !digits.isEmpty then some ((Raw.nat? digits).getD 0, text.drop digits.length)
  else
    match text with
    | letter :: rest => (stretch.number? letter).map (·, rest)
    | [] => none

/-- Text up to a mark that stands outside of all parentheses, and what follows the mark. -/
def upToMark (mark : Char) : Nat → Raw → Raw → Option (Raw × Raw)
  | _, [], _ => none
  | depth, char :: rest, found =>
      if char = mark && depth = 0 then some (found.reverse, rest)
      else if char = '(' then upToMark mark (depth + 1) rest (char :: found)
      else if char = ')' then upToMark mark (depth - 1) rest (char :: found)
      else upToMark mark depth rest (char :: found)

/-- The branch of a condition, with the text behind it. -/
def chosenBranch? (stretch : Stretch) (condition : Raw) : Option Raw := do
  let (first, '=' :: second) ← conditionNumber? stretch condition | none
  let (value, '?' :: branches) ← conditionNumber? stretch second | none
  let (yes, others) ← upToMark ':' 0 branches []
  let (no, after) ← upToMark ')' 0 others []
  return (if first = value then yes else no) ++ after

def formattedGroup (layout : Layout) (formats : Formats) (left right : Array Line) (stretch : Stretch) :
    Nat → Raw → Bytes
  | 0, _ => []
  | _ + 1, [] => []
  | room + 1, '%' :: rest =>
      let next := formattedGroup layout formats left right stretch room
      match rest with
      | '%' :: after => 0x25 :: next after
      | '<' :: after =>
          formattedLines layout formats.oldLine left stretch.left stretch.leftStop ++ next after
      | '=' :: after =>
          formattedLines layout formats.unchangedLine left stretch.left stretch.leftStop ++ next after
      | '>' :: after =>
          formattedLines layout formats.newLine right stretch.right stretch.rightStop ++ next after
      | 'c' :: quoted =>
          match quotedChar? quoted with
          | some (char, after) => UInt8.ofNat char.toNat :: next after
          | none => 0x25 :: next rest
      | '(' :: condition =>
          match chosenBranch? stretch condition with
          | some chosen => next chosen
          | none => 0x25 :: next rest
      | _ =>
          match numberDirective? rest with
          | some (directive, letter :: after) =>
              match stretch.number? letter with
              | some number => Raw.toBytes (directive.text number) ++ next after
              | none => 0x25 :: next rest
          | _ => 0x25 :: next rest
  | room + 1, char :: rest =>
      UInt8.ofNat char.toNat :: formattedGroup layout formats left right stretch room rest

def Formats.group (formats : Formats) : GroupKind → Raw
  | .old => formats.oldGroup
  | .new => formats.newGroup
  | .changed => formats.changedGroup
  | .unchanged => formats.unchangedGroup

def writtenGroup (layout : Layout) (formats : Formats) (left right : Array Line) (kind : GroupKind)
    (stretch : Stretch) : Bytes :=
  if stretch.left = stretch.leftStop && stretch.right = stretch.rightStop then []
  else
    let format := formats.group kind
    formattedGroup layout formats left right stretch (2 * format.length + 2) format

def groupsFrom (layout : Layout) (formats : Formats) (left right : Array Line) :
    Nat → Nat → List Change → Bytes
  | leftPlace, rightPlace, [] =>
      writtenGroup layout formats left right .unchanged
        { left := leftPlace, leftStop := left.size, right := rightPlace, rightStop := right.size }
  | leftPlace, rightPlace, change :: rest =>
      let kind : GroupKind :=
        if change.inserted = 0 then .old else if change.deleted = 0 then .new else .changed
      let leftStop := change.left + change.deleted
      let rightStop := change.right + change.inserted
      writtenGroup layout formats left right .unchanged
          { left := leftPlace, leftStop := change.left, right := rightPlace, rightStop := change.right } ++
        writtenGroup layout formats left right kind
          { left := change.left, leftStop, right := change.right, rightStop } ++
        groupsFrom layout formats left right leftStop rightStop rest

def Formats.hidesUnchanged (formats : Formats) : Bool :=
  formats.unchangedGroup.isEmpty ||
    (formats.unchangedGroup = "%=" && formats.unchangedLine.isEmpty)

end FixtureRunner.Diff
