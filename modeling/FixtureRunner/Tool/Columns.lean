/-
Tools that take lines apart and put them together: fields, columns, numbers in front of
lines, and lines that are shared.
-/

import FixtureRunner.Search.Match
import FixtureRunner.Tool.Contents

namespace FixtureRunner.Tool

open Shell (Eval Stream)

/-! ### Selected fields -/

structure Range where
  first : Nat
  last : Option Nat

inductive ListFault where
  | secondDash
  | zero
  | noEnd
  | decreasing
  | badNumber (text : Raw)
deriving DecidableEq

inductive Counted where
  | fields
  | positions
deriving DecidableEq

def ListFault.message (counted : Counted) : ListFault → Raw
  | .secondDash =>
      if counted = .fields then "invalid field range"
      else "invalid byte or character range"
  | .zero =>
      if counted = .fields then "fields are numbered from 1"
      else "byte/character positions are numbered from 1"
  | .noEnd => "invalid range with no endpoint: -"
  | .decreasing => "invalid decreasing range"
  | .badNumber text =>
      (if counted = .fields then "invalid field value " else "invalid byte/character position ").toList ++
        quoted text

structure EntryReading where
  value : Nat := 0
  initial : Nat := 1
  hasDash : Bool := false
  hasLeft : Bool := false
  hasRight : Bool := false

def EntryReading.range (reading : EntryReading) : Except ListFault Range :=
  if reading.hasDash then
    if !reading.hasLeft && !reading.hasRight then .error .noEnd
    else if !reading.hasRight then .ok { first := reading.initial, last := none }
    else if reading.value < reading.initial then .error .decreasing
    else .ok { first := reading.initial, last := some reading.value }
  else if reading.value = 0 then
    .error .zero
  else
    .ok { first := reading.value, last := some reading.value }

def rangesFrom : Raw → EntryReading → List Range → Except ListFault (List Range)
  | [], reading, found => do return ((← reading.range) :: found).reverse
  | char :: rest, reading, found =>
      if char = '-' then
        if reading.hasDash then .error .secondDash
        else if reading.hasLeft && reading.value = 0 then .error .zero
        else
          rangesFrom rest
            { reading with
              hasDash := true, initial := if reading.hasLeft then reading.value else 1, value := 0 }
            found
      else if char = ',' || char = ' ' || char = '\t' then do
        let range ← reading.range
        rangesFrom rest {} (range :: found)
      else if char.isDigit then
        rangesFrom rest
          { reading with
            value := reading.value * 10 + (char.toNat - '0'.toNat)
            hasLeft := reading.hasLeft || !reading.hasDash
            hasRight := reading.hasRight || reading.hasDash }
          found
      else
        .error (.badNumber (char :: rest))

def merged : List Range → List Range → List Range
  | [], found => found.reverse
  | range :: rest, [] => merged rest [range]
  | range :: rest, held :: found =>
      if held.last.all (range.first ≤ ·) then
        let last :=
          match held.last, range.last with
          | some left, some right => some (max left right)
          | _, _ => none
        merged rest ({ held with last } :: found)
      else
        merged rest (range :: held :: found)

def gaps : Nat → List Range → List Range
  | start, [] => [{ first := start, last := none }]
  | start, range :: rest =>
      let before : List Range :=
        if start < range.first then [{ first := start, last := some (range.first - 1) }] else []
      match range.last with
      | none => before
      | some last => before ++ gaps (last + 1) rest

def ranges (complements : Bool) (text : Raw) : Except ListFault (List Range) := do
  let found ← rangesFrom text {} []
  let ordered := merged (found.mergeSort fun left right => left.first ≤ right.first) []
  return if complements then gaps 1 ordered else ordered

def Range.cut {α : Type} (range : Range) (parts : List α) : List α :=
  let behind := parts.drop (range.first - 1)
  match range.last with
  | none => behind
  | some last => behind.take (last + 1 - range.first)

def fieldsOf (separator : Char) (line : Raw) : List Raw :=
  Text.fields separator line

/-- The chosen fields of a line, or nothing if the line has no separator and that keeps it
back. -/
def cutFields (chosen : List Range) (separator : Char) (joint : Raw) (onlyDivided : Bool) (line : Raw) :
    Option Raw :=
  if line.contains separator then
    some (List.intercalate joint (chosen.flatMap fun range => range.cut (fieldsOf separator line)))
  else if onlyDivided then
    none
  else
    some line

def cutPositions (chosen : List Range) (joint : Raw) (line : Raw) : Raw :=
  List.intercalate joint ((chosen.map fun range => range.cut line).filter (!·.isEmpty))

def cutTool : Program := fun words =>
  withArguments
    { rules := [option 'b' "bytes" .always, option 'c' "characters" .always, option 'f' "fields" .always,
        option 'd' "delimiter" .always, option 's' "only-delimited", option 'z' "zero-terminated",
        wordOption "complement", wordOption "output-delimiter" .always] ++ flags "n" } words fun found => do
  let lists := found.options.filter fun held => ["b", "c", "f"].contains held.1
  match lists with
  | _ :: _ :: _ => misuse "only one list may be specified"
  | _ =>
      if (found.value? "d").any (1 < ·.length) then
        misuse "the delimiter must be a single character"
      else
        match lists with
        | [(key, some text)] =>
            let counted : Counted := if key = "f" then .fields else .positions
            if counted = .positions && found.has "d" then
              misuse "an input delimiter may be specified only when operating on fields"
            else if counted = .positions && found.has "s" then
              misuse ("suppressing non-delimited lines makes sense\n" ++
                "\tonly when operating on fields").toList
            else
              match ranges (found.has "complement") text with
              | .error fault => misuse (fault.message counted)
              | .ok chosen => do
                  let mark := found.mark
                  let separator := ((found.value? "d").map (·.headD '\x00')).getD '\t'
                  let shown (line : Raw) : Option Raw :=
                    match counted with
                    | .fields =>
                        cutFields chosen separator ((found.value? "output-delimiter").getD [separator])
                          (found.has "s") line
                    | .positions =>
                        some (cutPositions chosen ((found.value? "output-delimiter").getD []) line)
                  let names := found.files
                  onEach names fun name => do
                    match ← contentOf name with
                    | .error error => failOf (quotedIfNeeded name) error
                    | .ok content =>
                        output (((linesOf mark content).filterMap shown).flatMap (· ++ [mark]))
        | _ => misuse "you must specify a list of bytes, characters, or fields"

/-! ### Lines side by side -/

/-- The separators of a written list; an empty one is `none`. -/
def separatorsFrom : Raw → List (Option Char) → Option (List (Option Char))
  | [], found => some found.reverse
  | ['\\'], _ => none
  | '\\' :: char :: rest, found =>
      let meant : Option Char :=
        match char with
        | '0' => none
        | 'a' => some 'a'
        | _ => some ((Raw.letterEscape? char).getD char)
      separatorsFrom rest (meant :: found)
  | char :: rest, found => separatorsFrom rest (some char :: found)

def joinedWith (separators : Array (Option Char)) (texts : List Raw) : Raw :=
  (texts.zipIdx.flatMap fun (text, index) =>
    if index = 0 then text
    else ((separators.getD ((index - 1) % separators.size) none).toList ++ text))

def rowsFrom : Nat → List (List Raw) → List (List Raw) → List (List Raw)
  | 0, _, found => found.reverse
  | room + 1, columns, found =>
      if columns.all List.isEmpty then
        found.reverse
      else
        rowsFrom room (columns.map (·.drop 1)) (columns.map (·.headD []) :: found)

def dealt (count index : Nat) (lines : List Raw) : List Raw :=
  (lines.zipIdx.filter fun held => held.2 % count = index).map (·.1)

def pasteTool : Program := fun words =>
  withArguments
    { rules := [option 'd' "delimiters" .always, option 's' "serial", option 'z' "zero-terminated"] }
    words fun found => do
  let mark := found.mark
  let names := found.files
  let written := (found.value? "d").getD ['\t']
  match separatorsFrom written [] with
  | none => fail ("delimiter list ends with an unescaped backslash: " ++ quotedIfNeeded written)
  | some list => do
      let separators := if list.isEmpty then #[none] else list.toArray
      if found.has "s" then
        onEach names fun name => do
          match ← contentOf name with
          | .error error => failOf (quotedIfNeeded name) error
          | .ok content => output (joinedWith separators (linesOf mark content) ++ [mark])
      else
        let missing ← names.filterM fun name => return !(← exists? name)
        match missing with
        | name :: _ => do
            match ← inputOf name with
            | .error error => complainOf (quotedIfNeeded name) error
            | .ok _ => pure ()
            return 1
        | [] => do
            let shared := (names.filter (· = ['-'])).length
            let input ← if shared = 0 then pure [] else do
              match ← Eval.readAll 0 with
              | .ok text => pure (linesOf mark text)
              | .error _ => pure []
            let (columns, status, _) ← names.foldlM (fun (columns, worst, taken) name => do
              if name = ['-'] then
                return (columns ++ [dealt shared taken input], worst, taken + 1)
              else
                match ← contentOf name with
                | .error error => do
                    complainOf (quotedIfNeeded name) error
                    return (columns ++ [[]], 1, taken)
                | .ok content => return (columns ++ [linesOf mark content], worst, taken))
              (([] : List (List Raw)), 0, 0)
            let longest := columns.foldl (fun most column => max most column.length) 0
            output ((rowsFrom (longest + 1) columns []).flatMap fun row =>
              joinedWith separators row ++ [mark]) status

/-! ### Shared lines -/

inductive Sharing where
  | left
  | right
  | both
deriving DecidableEq

structure Side where
  rest : List Raw
  last : Option Raw := none
  before : Option Raw := none
  isWarned : Bool := false

/-- Moves to the next line of a file and tells whether the order of its lines is broken, as
far as that is looked at. -/
def Side.next (side : Side) (looks : Bool) : Side × Bool :=
  let moved : Side :=
    { side with rest := side.rest.drop 1, last := side.rest.head?, before := side.last }
  let isBroken :=
    match side.rest, moved.rest with
    | current :: _, next :: _ => next < current
    | current :: _, [] => side.last.any (current < ·)
    | _, _ => false
  if looks && isBroken && !side.isWarned then ({ moved with isWarned := true }, true)
  else (moved, false)

/-- Goes through two files in order; `action` gets each line and `warn` each file that turns
out not to be in order. -/
def compareSides (checks : Option Bool) (action : Sharing → Raw → Eval Unit) (warn : Nat → Eval Unit) :
    Nat → Side → Side → Bool → Eval Bool
  | 0, left, right, _ => return left.isWarned || right.isWarned
  | room + 1, left, right, isUneven => do
      let sharing? : Option (Sharing × Raw) :=
        match left.rest, right.rest with
        | [], [] => none
        | line :: _, [] => some (.left, line)
        | [], line :: _ => some (.right, line)
        | first :: _, second :: _ =>
            if first = second then some (.both, first)
            else if first < second then some (.left, first)
            else some (.right, second)
      match sharing? with
      | none => return left.isWarned || right.isWarned
      | some (sharing, line) => do
          action sharing line
          let uneven := isUneven || sharing ≠ .both
          let looks := checks.getD uneven
          let (newLeft, leftBroken) := if sharing = .right then (left, false) else left.next looks
          let (newRight, rightBroken) := if sharing = .left then (right, false) else right.next looks
          if leftBroken then warn 1
          if rightBroken then warn 2
          compareSides checks action warn room newLeft newRight uneven

def sharedCount : Nat → List Raw → List Raw → Nat → Nat
  | 0, _, _, count => count
  | room + 1, left :: lefts, right :: rights, count =>
      if left = right then sharedCount room lefts rights (count + 1)
      else if left < right then sharedCount room lefts (right :: rights) count
      else sharedCount room (left :: lefts) rights count
  | _, _, _, count => count

def sharedTool : Program := fun words =>
  withArguments
    { rules := flags "123" ++ [wordOption "check-order", wordOption "nocheck-order",
        wordOption "output-delimiter" .always, wordOption "total", option 'z' "zero-terminated"] }
    words fun found => do
  let mark := found.mark
  match found.operands with
  | [] => missingOperand
  | [only] => misuse ("missing operand after " ++ quoted only)
  | _ :: _ :: extra :: _ => extraOperand extra
  | [first, second] => do
      match ← contentOf first with
      | .error error => failOf (quotedIfNeeded first) error
      | .ok leftText => do
          match ← contentOf second with
          | .error error => failOf (quotedIfNeeded second) error
          | .ok rightText => do
              let left := linesOf mark leftText
              let right := linesOf mark rightText
              let joint := (found.value? "output-delimiter").getD ['\t']
              let indent (columns : List String) : Raw :=
                (columns.filter fun key => !found.has key).flatMap fun _ => joint
              let show_ (sharing : Sharing) (line : Raw) : Eval Unit := do
                let (key, lead) :=
                  match sharing with
                  | .left => ("1", [])
                  | .right => ("2", indent ["1"])
                  | .both => ("3", indent ["1", "2"])
                unless found.has key do Eval.say 1 (lead ++ line ++ [mark])
              let warn (number : Nat) : Eval Unit := do
                complain ("file " ++ Raw.ofNat number ++ " is not in sorted order")
                if found.has "check-order" then throw (.exit 1)
              let checks : Option Bool :=
                match found.last? ["check-order", "nocheck-order"] with
                | some "check-order" => some true
                | some _ => some false
                | none => none
              let isBroken ← compareSides checks show_ warn (left.length + right.length + 1)
                { rest := left } { rest := right } false
              if found.has "total" then
                let both := sharedCount (left.length + right.length + 1) left right 0
                Eval.say 1 (Raw.ofNat (left.length - both) ++ joint ++ Raw.ofNat (right.length - both) ++
                  joint ++ Raw.ofNat both ++ joint ++ "total" ++ [mark])
              if isBroken then
                fail "input is not in sorted order"
              else
                return 0

/-! ### Numbered lines -/

inductive Numbering where
  | all
  | filled
  | nothing
  | matching (compiled : Search.Compiled)

def numbering? (text : Raw) : Option Numbering :=
  match text with
  | ['a'] => some .all
  | ['t'] => some .filled
  | ['n'] => some .nothing
  | 'p' :: pattern =>
      match Search.read false pattern with
      | .ok compiled => some (.matching compiled)
      | .error _ => none
  | _ => none

def Numbering.takes (numbering : Numbering) (line : Raw) : Bool :=
  match numbering with
  | .all => true
  | .filled => !line.isEmpty
  | .nothing => false
  | .matching compiled =>
      (Search.find? { text := line.toArray } compiled false 0).isSome

inductive Section where
  | head
  | body
  | foot
deriving DecidableEq

structure NumberLayout where
  styles : Section → Numbering
  first : Int
  step : Int
  width : Nat
  joint : Raw
  form : Raw
  mark : Raw
  keepsCounting : Bool
  blanks : Nat

def NumberLayout.number (layout : NumberLayout) (value : Int) : Raw :=
  let text := Raw.ofInt value
  let padding := layout.width - text.length
  match String.ofList layout.form with
  | "ln" => text ++ List.replicate padding ' '
  | "rz" =>
      if value < 0 then '-' :: List.replicate padding '0' ++ text.drop 1
      else List.replicate padding '0' ++ text
  | _ => List.replicate padding ' ' ++ text

def NumberLayout.sectionOf? (layout : NumberLayout) (line : Raw) : Option Section :=
  if layout.mark.isEmpty then none
  else if line = layout.mark ++ layout.mark ++ layout.mark then some .head
  else if line = layout.mark ++ layout.mark then some .body
  else if line = layout.mark then some .foot
  else none

def NumberLayout.linesFrom (layout : NumberLayout) : List Raw → Section → Int → Nat → List Raw → List Raw
  | [], _, _, _, found => found
  | line :: rest, part, value, blanks, found =>
      match layout.sectionOf? line with
      | some next =>
          layout.linesFrom rest next (if layout.keepsCounting then value else layout.first) 0
            (['\n'] :: found)
      | none =>
          let style := layout.styles part
          let blanksNow := if line.isEmpty then blanks + 1 else 0
          let isCounted := match style with
            | .all => !line.isEmpty || blanksNow % layout.blanks = 0
            | _ => style.takes line
          if isCounted then
            layout.linesFrom rest part (value + layout.step) blanksNow
              ((layout.number value ++ layout.joint ++ line ++ ['\n']) :: found)
          else
            layout.linesFrom rest part value blanksNow
              ((List.replicate (layout.width + layout.joint.length) ' ' ++ line ++ ['\n']) :: found)

def numberTool : Program := fun words =>
  withArguments
    { rules := [option 'b' "body-numbering" .always, option 'h' "header-numbering" .always,
        option 'f' "footer-numbering" .always, option 'v' "starting-line-number" .always,
        option 'i' "line-increment" .always, option 'p' "no-renumber",
        option 'l' "join-blank-lines" .always, option 's' "number-separator" .always,
        option 'w' "number-width" .always, option 'n' "number-format" .always,
        option 'd' "section-delimiter" .always] } words fun found => do
  let style (key name : String) (usual : Numbering) : Except Raw Numbering :=
    match found.value? key with
    | none => .ok usual
    | some text =>
        match numbering? text with
        | some numbering => .ok numbering
        | none => .error (("invalid " ++ name ++ " numbering style: ").toList ++ quoted text)
  let whole (key name : String) (usual : Int) : Except Raw Int :=
    match found.value? key with
    | none => .ok usual
    | some text =>
        let (sign, digits) : Int × Raw :=
          match text with
          | '-' :: rest => (-1, rest)
          | '+' :: rest => (1, rest)
          | _ => (1, text)
        match Raw.nat? digits with
        | some number => .ok (sign * number)
        | none => .error (("invalid " ++ name ++ ": ").toList ++ quoted text)
  let layout : Except Raw NumberLayout := do
    let head ← style "h" "header" .nothing
    let body ← style "b" "body" .filled
    let foot ← style "f" "footer" .nothing
    let first ← whole "v" "starting line number" 1
    let step ← whole "i" "line number increment" 1
    let width ← whole "w" "line number field width" 6
    let blanks ← whole "l" "line number of blank lines" 1
    let form := (found.value? "n").getD ['r', 'n']
    if !(["ln", "rn", "rz"].contains (String.ofList form)) then
      throw ("invalid line numbering format: " ++ quoted form)
    let mark : Raw :=
      match found.value? "d" with
      | some [char] => [char, ':']
      | some text => text
      | none => ['\\', ':']
    return {
      styles := fun part =>
        match part with
        | .head => head
        | .body => body
        | .foot => foot
      first, step
      width := width.toNat
      joint := (found.value? "s").getD ['\t']
      form, mark
      keepsCounting := found.has "p"
      blanks := max 1 blanks.toNat }
  match layout with
  | .error message => misuse message
  | .ok layout => do
      let (contents, status) ← allContents quotedIfNeeded found.operands
      let lines := textLines (contents.flatMap (·.2))
      output (layout.linesFrom lines .body layout.first 0 []).reverse.flatten status

/-! ### Widths -/

def columnAfter (countsBytes : Bool) (place : Nat) (char : Char) : Nat :=
  if countsBytes then place + 1
  else
    match char with
    | '\x08' => place - 1
    | '\r' => 0
    | '\t' => place + 8 - place % 8
    | _ => place + 1

structure Folding where
  width : Nat
  countsBytes : Bool
  atSpaces : Bool

def splitAtBlank (backwards : Raw) : Option (Raw × Raw) :=
  let tail := backwards.takeWhile fun char => char ≠ ' ' && char ≠ '\t'
  if tail.length < backwards.length then some (backwards.drop tail.length, tail) else none

/-- Cuts lines that are too long.  `line` is the current line backwards and `found` all the
lines before it; `room` bounds the number of looks at a character. -/
def Folding.from (folding : Folding) : Nat → Raw → Raw → Nat → Raw → Raw
  | 0, _, line, _, found => line ++ found
  | _ + 1, [], line, _, found => line ++ found
  | room + 1, char :: rest, line, place, found =>
      if char = '\n' then
        folding.from room rest [] 0 ('\n' :: line ++ found)
      else
        let next := columnAfter folding.countsBytes place char
        if next ≤ folding.width then
          folding.from room rest (char :: line) next found
        else
          match (if folding.atSpaces then splitAtBlank line else none) with
          | some (head, tail) =>
              let moved := tail.reverse.foldl (columnAfter folding.countsBytes) 0
              folding.from room (char :: rest) tail moved ('\n' :: head ++ found)
          | none =>
              if line.isEmpty then folding.from room rest [char] next found
              else folding.from room (char :: rest) [] 0 ('\n' :: line ++ found)

def oldWidth (words : List Raw) : List Raw :=
  words.flatMap fun word =>
    match word with
    | '-' :: first :: rest => if first.isDigit then [['-', 'w'], first :: rest] else [word]
    | _ => [word]

def foldTool : Program := fun words =>
  withArguments
    { rules := [option 'b' "bytes", option 's' "spaces", option 'w' "width" .always] }
    (oldWidth words) fun found => do
  let written := (found.value? "w").getD ['8', '0']
  match plainCount? written with
  | .error _ | .ok 0 => fail ("invalid number of columns: " ++ quoted written)
  | .ok width =>
      let folding : Folding :=
        { width, countsBytes := found.has "b", atSpaces := found.has "s" }
      let names := found.files
      onEach names fun name => do
        match ← contentOf name with
        | .error error => failOf (quotedIfNeeded name) error
        | .ok text => output (folding.from (3 * text.length + 3) text [] 0 []).reverse

/-- Where tabs end: places in order, and then every so many columns if there is only one. -/
structure TabStops where
  places : List Nat

def TabStops.next (stops : TabStops) (place : Nat) : Option Nat :=
  match stops.places with
  | [] => some (place + 8 - place % 8)
  | [every] => some (place + every - place % every)
  | places => places.find? (place < ·)

def tabStops? (text : Raw) : Except Raw TabStops :=
  let words := (text.splitBy fun left right =>
    (left = ',' || left = ' ') = (right = ',' || right = ' ')).filter fun word =>
      !(word.headD ',' = ',' || word.headD ',' = ' ')
  let digits (word : Raw) : Option Nat := Raw.nat? word
  match words.find? fun word => (digits word).isNone with
  | some bad => .error ("tab size contains invalid character(s): " ++
      quoted (bad.dropWhile Char.isDigit))
  | none =>
      let places := words.filterMap digits
      if places.contains 0 then .error "tab size cannot be 0"
      else if (places.zip (places.drop 1)).any fun pair => pair.2 ≤ pair.1 then
        .error "tab sizes must be ascending"
      else .ok { places }

def expandedFrom (stops : TabStops) (onlyLeading : Bool) : Raw → Nat → Bool → Raw → Raw
  | [], _, _, found => found
  | char :: rest, place, isLeading, found =>
      if char = '\n' then
        expandedFrom stops onlyLeading rest 0 true (char :: found)
      else if char = '\t' && (isLeading || !onlyLeading) then
        let next := (stops.next place).getD (place + 1)
        expandedFrom stops onlyLeading rest next isLeading (List.replicate (next - place) ' ' ++ found)
      else if char = '\x08' then
        expandedFrom stops onlyLeading rest (place - 1) false (char :: found)
      else
        expandedFrom stops onlyLeading rest (place + 1) (isLeading && char = ' ') (char :: found)

def blanksBetween (stops : TabStops) : Nat → Nat → Nat → Raw
  | 0, start, stop => List.replicate (stop - start) ' '
  | room + 1, start, stop =>
      match stops.next start with
      | some next =>
          if next ≤ stop then '\t' :: blanksBetween stops room next stop
          else List.replicate (stop - start) ' '
      | none => List.replicate (stop - start) ' '

/-- Puts tabs in the place of runs of blanks; `blanks` is where the current run started and
whether it holds a tab.  The result is backwards. -/
def unexpandedFrom (stops : TabStops) (everywhere : Bool) :
    Raw → Nat → Option (Nat × Bool) → Bool → Raw → Raw
  | [], place, blanks, _, found => closed place blanks found
  | char :: rest, place, blanks, isLeading, found =>
      if char = '\n' then
        unexpandedFrom stops everywhere rest 0 none true (char :: closed place blanks found)
      else if (char = ' ' || char = '\t') && (isLeading || everywhere) then
        let next := if char = '\t' then (stops.next place).getD (place + 1) else place + 1
        let start := match blanks with
          | some (start, hasTab) => (start, hasTab || char = '\t')
          | none => (place, char = '\t')
        unexpandedFrom stops everywhere rest next (some start) isLeading found
      else
        unexpandedFrom stops everywhere rest (place + 1) none false (char :: closed place blanks found)
where
  closed (place : Nat) (blanks : Option (Nat × Bool)) (found : Raw) : Raw :=
    match blanks with
    | none => found
    | some (start, hasTab) =>
        if place - start < 2 && !hasTab then List.replicate (place - start) ' ' ++ found
        else (blanksBetween stops (place + 1) start place).reverse ++ found

def blankTool (rules : List OptionRule) (change : Arguments → TabStops → Raw → Raw) : Program := fun words =>
  withArguments { rules := [option 't' "tabs" .always] ++ rules } (words.flatMap (oldNumber '-' 't'))
    fun found => do
  match tabStops? (List.intercalate [','] (found.values "t")) with
  | .error message => fail message
  | .ok stops =>
      onEach found.files fun name => do
        match ← contentOf name with
        | .error error => failOf (quotedIfNeeded name) error
        | .ok text => output (change found stops text)

def expandTool : Program :=
  blankTool [option 'i' "initial"] fun found stops text =>
    (expandedFrom stops (found.has "i") text 0 true []).reverse

def unexpandTool : Program :=
  blankTool [option 'a' "all", wordOption "first-only"] fun found stops text =>
    (unexpandedFrom stops ((found.has "a" || found.has "t") && !found.has "first-only") text 0 none true
      []).reverse

end FixtureRunner.Tool
