/-
Lines in order: keys and how they are compared, sorting, and leaving out what is repeated.
-/

import FixtureRunner.Decimal.Notation
import FixtureRunner.Tool.Contents

namespace FixtureRunner.Tool

open Shell (Eval)

/-! ### Comparing -/

def compareRaw : Raw → Raw → Ordering
  | [], [] => .eq
  | [], _ :: _ => .lt
  | _ :: _, [] => .gt
  | left :: lefts, right :: rights =>
      match compare left.toNat right.toNat with
      | .eq => compareRaw lefts rights
      | order => order

structure DigitNumber where
  isNegative : Bool
  whole : Raw
  fraction : Raw

def isBlankChar (char : Char) : Bool :=
  char = ' ' || char = '\t' || char = '\n'

def digitNumber (text : Raw) : DigitNumber × Raw :=
  let body := text.dropWhile isBlankChar
  let (isNegative, digits) :=
    match body with
    | '-' :: rest => (true, rest)
    | _ => (false, body)
  let whole := digits.takeWhile Char.isDigit
  let behind := digits.drop whole.length
  let fraction : Raw :=
    match behind with
    | '.' :: rest => rest.takeWhile Char.isDigit
    | _ => []
  let after : Raw :=
    match behind with
    | '.' :: rest => rest.drop fraction.length
    | _ => behind
  let bare := whole.dropWhile (· = '0')
  let short := (fraction.reverse.dropWhile (· = '0')).reverse
  ({ isNegative := isNegative && !(bare.isEmpty && short.isEmpty), whole := bare, fraction := short }, after)

def DigitNumber.isZero (number : DigitNumber) : Bool :=
  number.whole.isEmpty && number.fraction.isEmpty

def compareMagnitude (left right : DigitNumber) : Ordering :=
  match compare left.whole.length right.whole.length with
  | .eq =>
      match compareRaw left.whole right.whole with
      | .eq => compareRaw left.fraction right.fraction
      | order => order
  | order => order

def compareNumbers (left right : DigitNumber) : Ordering :=
  match left.isNegative, right.isNegative with
  | true, false => .lt
  | false, true => .gt
  | false, false => compareMagnitude left right
  | true, true => compareMagnitude right left

def suffixRank (number : DigitNumber) (after : Raw) : Int :=
  let rank : Nat :=
    match after.head? with
    | some 'K' | some 'k' => 1
    | some 'M' => 2
    | some 'G' => 3
    | some 'T' => 4
    | some 'P' => 5
    | some 'E' => 6
    | some 'Z' => 7
    | some 'Y' => 8
    | some 'R' => 9
    | some 'Q' => 10
    | _ => 0
  if number.isZero then 0 else if number.isNegative then -(rank : Int) else rank

def compareSizes (left right : Raw) : Ordering :=
  let (first, afterFirst) := digitNumber left
  let (second, afterSecond) := digitNumber right
  match compare (suffixRank first afterFirst) (suffixRank second afterSecond) with
  | .eq => compareNumbers first second
  | order => order

def compareReals (left right : Raw) : Ordering :=
  let rank : Option Decimal.Real → Nat
    | none => 0
    | some (.undefined _) => 1
    | some (.infinite true) => 2
    | some (.quotient _ _ _) => 3
    | some (.infinite false) => 4
  let first : Option Decimal.Real := (Decimal.Real.read? left).map (·.1)
  let second : Option Decimal.Real := (Decimal.Real.read? right).map (·.1)
  match first, second with
  | some (.quotient negative top bottom), some (.quotient isNegative numerator denominator) =>
      let signed (isNegative : Bool) (value : Nat) : Int :=
        if isNegative then -(value : Int) else value
      compare (signed negative (top * denominator)) (signed isNegative (numerator * bottom))
  | _, _ => compare (rank first) (rank second)

def monthNames : List String :=
  ["JAN", "FEB", "MAR", "APR", "MAY", "JUN", "JUL", "AUG", "SEP", "OCT", "NOV", "DEC"]

def monthOf (text : Raw) : Nat :=
  let name := ((text.dropWhile isBlankChar).take 3).map Char.toUpper
  match monthNames.findIdx? (·.toList = name) with
  | some index => index + 1
  | none => 0

def versionRank : Option Char → Int
  | none => -1
  | some char =>
      if char.isDigit then 0
      else if char.isAlpha then char.toNat
      else if char = '~' then -2
      else char.toNat + 256

def compareWords : Nat → Raw → Raw → Except Ordering (Raw × Raw)
  | 0, left, right => .ok (left, right)
  | room + 1, left, right =>
      let isWord (text : Raw) : Bool := text.head?.any fun char => !char.isDigit
      if isWord left || isWord right then
        match compare (versionRank left.head?) (versionRank right.head?) with
        | .eq => compareWords room (left.drop 1) (right.drop 1)
        | order => .error order
      else
        .ok (left, right)

def compareVersionTexts : Nat → Raw → Raw → Ordering
  | 0, _, _ => .eq
  | room + 1, left, right =>
      if left.isEmpty && right.isEmpty then
        .eq
      else
        match compareWords (left.length + right.length + 1) left right with
        | .error order => order
        | .ok (leftRest, rightRest) =>
            let first := (leftRest.dropWhile (· = '0')).takeWhile Char.isDigit
            let second := (rightRest.dropWhile (· = '0')).takeWhile Char.isDigit
            match compare first.length second.length with
            | .eq =>
                match compareRaw first second with
                | .eq =>
                    compareVersionTexts room (leftRest.dropWhile Char.isDigit)
                      (rightRest.dropWhile Char.isDigit)
                | order => order
            | order => order

def stemLength : Nat → Raw → Nat → Nat → Nat
  | 0, _, _, stem => stem
  | _ + 1, [], _, stem => stem
  | room + 1, _ :: rest, position, _ =>
      let after := skipEndings (rest.length + 1) rest
      stemLength room after (position + 1 + (rest.length - after.length)) (position + 1)
where
  skipEndings : Nat → Raw → Raw
    | 0, text => text
    | room + 1, '.' :: char :: rest =>
        if char.isAlpha || char = '~' then
          skipEndings room (rest.dropWhile fun char => char.isAlphanum || char = '~')
        else
          '.' :: char :: rest
    | _ + 1, text => text

def compareVersions (left right : Raw) : Ordering :=
  let dotRank (text : Raw) : Nat :=
    match text with
    | [] => 0
    | ['.'] => 1
    | ['.', '.'] => 2
    | '.' :: _ => 3
    | _ => 4
  match compare (dotRank left) (dotRank right) with
  | .eq =>
      if dotRank left < 3 then
        .eq
      else
        let room := left.length + right.length + 1
        let stem (text : Raw) : Raw := text.take (stemLength (text.length + 1) text 0 0)
        match compareVersionTexts room (stem left) (stem right) with
        | .eq => compareVersionTexts room left right
        | order => order
  | order => order

/-! ### Keys -/

structure Comparison where
  skipsStart : Bool := false
  skipsStop : Bool := false
  dictionary : Bool := false
  ignoresCase : Bool := false
  general : Bool := false
  sizes : Bool := false
  shown : Bool := false
  months : Bool := false
  numeric : Bool := false
  random : Bool := false
  version : Bool := false
  reversed : Bool := false

def Comparison.isUsual (comparison : Comparison) : Bool :=
  !(comparison.skipsStart || comparison.skipsStop || comparison.dictionary || comparison.ignoresCase ||
    comparison.general || comparison.sizes || comparison.shown || comparison.months ||
    comparison.numeric || comparison.random || comparison.version)

/-- Adds what a letter asks for; the place tells to which end of a key blanks belong. -/
def Comparison.add (comparison : Comparison) (atStart atStop : Bool) (letter : Char) :
    Option Comparison :=
  match letter with
  | 'b' =>
      some { comparison with
        skipsStart := comparison.skipsStart || atStart
        skipsStop := comparison.skipsStop || atStop }
  | 'd' => some { comparison with dictionary := true }
  | 'f' => some { comparison with ignoresCase := true }
  | 'g' => some { comparison with general := true }
  | 'h' => some { comparison with sizes := true }
  | 'i' => some { comparison with shown := true }
  | 'M' => some { comparison with months := true }
  | 'n' => some { comparison with numeric := true }
  | 'R' => some { comparison with random := true }
  | 'r' => some { comparison with reversed := true }
  | 'V' => some { comparison with version := true }
  | _ => none

def Comparison.conflict? (comparison : Comparison) : Option Raw :=
  let kinds := [comparison.numeric, comparison.general, comparison.sizes, comparison.months,
    comparison.version || comparison.random || comparison.dictionary || comparison.shown]
  if 1 < (kinds.filter id).length then
    let letters : List (Bool × Char) :=
      [(comparison.dictionary, 'd'), (comparison.ignoresCase, 'f'), (comparison.general, 'g'),
        (comparison.sizes, 'h'), (comparison.shown && !comparison.dictionary, 'i'),
        (comparison.months, 'M'), (comparison.numeric, 'n'), (comparison.random, 'R'),
        (comparison.version, 'V')]
    some ((letters.filter (·.1)).map (·.2))
  else
    none

/-- A part of a line that is compared: its first field and character, counted from zero, and
its last field and the number of its characters. -/
structure Key where
  startField : Nat := 0
  startChar : Nat := 0
  stopField : Option Nat := none
  stopChar : Nat := 0
  comparison : Comparison := {}

def skipBlanks (text : Raw) : Raw :=
  text.dropWhile isBlankChar

def behindFields (separator : Option Char) : Nat → Raw → Raw
  | 0, text => text
  | count + 1, text =>
      match separator with
      | some char => behindFields separator count ((text.dropWhile (· ≠ char)).drop 1)
      | none => behindFields separator count ((skipBlanks text).dropWhile fun char => !isBlankChar char)

def behindLastField (separator : Option Char) : Nat → Raw → Raw
  | 0, text => text
  | 1, text =>
      match separator with
      | some char => text.dropWhile (· ≠ char)
      | none => behindFields none 1 text
  | count + 1, text => behindLastField separator count (behindFields separator 1 text)

def Key.text (key : Key) (separator : Option Char) (line : Raw) : Raw :=
  let fields := behindFields separator (min key.startField (line.length + 1)) line
  let start := (if key.comparison.skipsStart then skipBlanks fields else fields).drop key.startChar
  match key.stopField with
  | none => start
  | some field =>
      let count := min field (line.length + 1)
      let after :=
        if key.stopChar = 0 then
          behindLastField separator (count + 1) line
        else
          let behind := behindFields separator count line
          (if key.comparison.skipsStop then skipBlanks behind else behind).drop key.stopChar
      start.take (start.length - after.length)

def Comparison.filtered (comparison : Comparison) (text : Raw) : Raw :=
  let kept :=
    if comparison.dictionary then text.filter fun char => isBlankChar char || char.isAlphanum
    else if comparison.shown then text.filter isShown
    else text
  if comparison.ignoresCase then kept.map Char.toUpper else kept

def Comparison.order (comparison : Comparison) (left right : Raw) : Ordering :=
  let first := comparison.filtered left
  let second := comparison.filtered right
  let order :=
    if comparison.numeric then compareNumbers (digitNumber first).1 (digitNumber second).1
    else if comparison.general then compareReals first second
    else if comparison.sizes then compareSizes first second
    else if comparison.months then compare (monthOf first) (monthOf second)
    else if comparison.version then compareVersions first second
    else compareRaw first second
  if comparison.reversed then order.swap else order

/-! ### Sorting -/

structure Sorting where
  keys : List Key
  separator : Option Char
  reversed : Bool
  isStable : Bool
  isUnique : Bool

def Sorting.keyOrder (sorting : Sorting) (left right : Raw) : Ordering :=
  sorting.keys.foldl (fun order key =>
    match order with
    | .eq => key.comparison.order (key.text sorting.separator left) (key.text sorting.separator right)
    | decided => decided) .eq

def Sorting.order (sorting : Sorting) (left right : Raw) : Ordering :=
  match sorting.keyOrder left right with
  | .eq =>
      if !sorting.keys.isEmpty && (sorting.isStable || sorting.isUnique) then
        .eq
      else
        let order := compareRaw left right
        if sorting.reversed then order.swap else order
  | order => order

def Sorting.isOrdered (sorting : Sorting) (left right : Raw) : Bool :=
  sorting.order left right != .gt

def Sorting.distinct (sorting : Sorting) : List Raw → List Raw → List Raw
  | [], found => found.reverse
  | line :: rest, [] => sorting.distinct rest [line]
  | line :: rest, held :: found =>
      if sorting.order held line = .eq then sorting.distinct rest (held :: found)
      else sorting.distinct rest (line :: held :: found)

def Sorting.finish (sorting : Sorting) (lines : List Raw) : List Raw :=
  if sorting.isUnique then sorting.distinct lines [] else lines

def Sorting.sort (sorting : Sorting) (lines : List Raw) : List Raw :=
  sorting.finish (lines.mergeSort sorting.isOrdered)

def Sorting.disorder? (sorting : Sorting) : List Raw → Nat → Option (Nat × Raw)
  | first :: second :: rest, number =>
      let isFine :=
        if sorting.isUnique then sorting.order first second = .lt
        else sorting.order first second ≠ .gt
      if isFine then sorting.disorder? (second :: rest) (number + 1) else some (number + 1, second)
  | _, _ => none

inductive KeyFault where
  | badCount (place : String) (text : Raw)
  | badSpec (place : String) (spec : Raw)

def KeyFault.message : KeyFault → Raw
  | .badCount place text =>
      (place ++ ": invalid count at start of ").toList ++ quoted text
  | .badSpec place spec => (place ++ ": invalid field specification ").toList ++ quoted spec

def fieldCount (place : String) (text : Raw) : Except KeyFault (Nat × Raw) :=
  let digits := text.takeWhile Char.isDigit
  match Raw.nat? digits with
  | some number => .ok (number, text.drop digits.length)
  | none => .error (.badCount place text)

def comparisonAt (atStart atStop : Bool) : Raw → Comparison → Comparison × Raw
  | [], comparison => (comparison, [])
  | letter :: rest, comparison =>
      match comparison.add atStart atStop letter with
      | some added => comparisonAt atStart atStop rest added
      | none => (comparison, letter :: rest)

def Key.read (spec : Raw) : Except KeyFault Key := do
  let (field, afterField) ← fieldCount "invalid number at field start" spec
  if field = 0 then throw (.badSpec "field number is zero" spec)
  let (char, afterChar) ←
    match afterField with
    | '.' :: rest => do
        let (char, after) ← fieldCount "invalid number after '.'" rest
        if char = 0 then throw (.badSpec "character offset is zero" spec)
        pure (char - 1, after)
    | _ => pure (0, afterField)
  let (comparison, after) := comparisonAt true false afterChar {}
  let key : Key := { startField := field - 1, startChar := char, comparison }
  match after with
  | [] => return key
  | ',' :: rest => do
      let (stop, afterStop) ← fieldCount "invalid number after ','" rest
      if stop = 0 then throw (.badSpec "field number is zero" spec)
      let (stopChar, afterStopChar) ←
        match afterStop with
        | '.' :: rest => fieldCount "invalid number after '.'" rest
        | _ => pure (0, afterStop)
      let (full, left) := comparisonAt false true afterStopChar comparison
      if !left.isEmpty then throw (.badSpec "stray character in field spec" spec)
      return { key with stopField := some (stop - 1), stopChar, comparison := full }
  | _ => throw (.badSpec "stray character in field spec" spec)

def separator? (text : Raw) : Except Raw (Option Char) :=
  match text with
  | [] => .error "empty tab"
  | [char] => .ok (some char)
  | ['\\', '0'] => .ok (some '\x00')
  | _ => .error ("multi-character tab " ++ quoted text)

def sortWord (word : Raw) : Option Char :=
  ([("general-numeric", 'g'), ("human-numeric", 'h'), ("month", 'M'), ("numeric", 'n'),
    ("random", 'R'), ("version", 'V')].find? fun pair => word.isPrefixOf pair.1.toList).map (·.2)

def sortingOf (found : Arguments) : Except Raw Sorting := do
  let separator ←
    match found.value? "t" with
    | none => pure none
    | some text => separator? text
  let letters := ["b", "d", "f", "g", "h", "i", "M", "n", "R", "r", "V"].filter found.has
  let worded := (found.value? "sort").bind sortWord
  let general := ((letters.flatMap String.toList) ++ worded.toList).foldl
    (fun comparison letter => (comparison.add true true letter).getD comparison) ({} : Comparison)
  let keys ← (found.values "k").mapM fun spec =>
    match Key.read spec with
    | .ok key => .ok key
    | .error fault => .error fault.message
  let inherited := keys.map fun key =>
    if key.comparison.isUsual && !key.comparison.reversed then { key with comparison := general } else key
  let all := if keys.isEmpty && !general.isUsual then [{ comparison := general }] else inherited
  match all.findSome? fun key => key.comparison.conflict? with
  | some letters => throw ("options '-" ++ letters ++ "' are incompatible")
  | none => pure ()
  return {
    keys := all
    separator
    reversed := general.reversed
    isStable := found.has "s"
    isUnique := found.has "u" }

def sortRules : List OptionRule :=
  [option 'b' "ignore-leading-blanks", option 'd' "dictionary-order", option 'f' "ignore-case",
    option 'g' "general-numeric-sort", option 'i' "ignore-nonprinting", option 'M' "month-sort",
    option 'h' "human-numeric-sort", option 'n' "numeric-sort", option 'R' "random-sort",
    option 'r' "reverse", wordOption "sort" .always, option 'V' "version-sort",
    option 'c' "check" .attached, option 'C' "check", option 'k' "key" .always, option 'm' "merge",
    option 'o' "output" .always, option 's' "stable", option 'S' "buffer-size" .always,
    option 't' "field-separator" .always, option 'T' "temporary-directory" .always,
    option 'u' "unique", option 'z' "zero-terminated", wordOption "parallel" .always,
    wordOption "batch-size" .always]

def isQuietCheck (found : Arguments) : Bool :=
  found.has "C" || (found.value? "c").any fun value => ["quiet", "silent"].contains (String.ofList value)

/-- Letters behind `-c` are options of their own. -/
def splitCheck (words : List Raw) : List Raw :=
  words.flatMap fun word =>
    match word with
    | '-' :: 'c' :: rest => if rest.isEmpty then [word] else [['-', 'c'], '-' :: rest]
    | _ => [word]

def sortTool : Program := fun words =>
  withArguments { rules := sortRules, status := 2 } (splitCheck words) fun found => do
  let mark := found.mark
  match sortingOf found with
  | .error message => fail message 2
  | .ok sorting => do
      let names := found.files
      let checks := found.has "c" || found.has "C"
      match checks, names with
      | true, _ :: extra :: _ =>
          fail ("extra operand " ++ quoted extra ++ " not allowed with -" ++
            [if found.has "C" then 'C' else 'c']) 2
      | _, _ => do
          let lead (error : SystemError) (name : Raw) : Raw :=
            (if error = .isFolder then "read failed: " else "cannot read: ").toList ++
              quotedIfNeeded name
          match ← contentsOf lead names with
          | none => return 2
          | some contents => do
              let texts := contents.map (linesOf mark)
              if checks then
                match sorting.disorder? texts.flatten 1 with
                | none => return 0
                | some (number, line) => do
                    unless isQuietCheck found do
                      complain (names.headD [] ++ ':' :: Raw.ofNat number ++ ": disorder: " ++ line)
                    return 1
              else do
                let lines :=
                  if found.has "m" then
                    sorting.finish (texts.foldl (fun left right =>
                      left.merge right sorting.isOrdered) [])
                  else
                    sorting.sort texts.flatten
                let text := lines.flatMap (· ++ [mark])
                match found.value? "o" with
                | none => output text
                | some name => do
                    match ← Eval.writeFile name text with
                    | none => return 0
                    | some error => failOf ("open failed: " ++ quotedIfNeeded name) error 2

/-! ### Repeated lines -/

structure Likeness where
  fields : Nat
  chars : Nat
  width : Option Nat
  ignoresCase : Bool

def Likeness.part (likeness : Likeness) (line : Raw) : Raw :=
  let skipped := behindFields none (min likeness.fields line.length) line
  let behind := skipped.drop likeness.chars
  let cut := (likeness.width.map (behind.take ·)).getD behind
  if likeness.ignoresCase then cut.map Char.toUpper else cut

/-- Runs of lines that are alike, the last run first and its lines backwards. -/
def Likeness.runsFrom (likeness : Likeness) : List Raw → Raw → List (List Raw) → List (List Raw)
  | [], _, found => found
  | line :: rest, before, found =>
      let part := likeness.part line
      match found with
      | run :: others =>
          if part = before then likeness.runsFrom rest part ((line :: run) :: others)
          else likeness.runsFrom rest part ([line] :: run :: others)
      | [] => likeness.runsFrom rest part [[line]]

def Likeness.runs (likeness : Likeness) (lines : List Raw) : List (List Raw) :=
  ((likeness.runsFrom lines [] []).map List.reverse).reverse

/-- Options in the old way: fields to skip behind a dash, characters behind a plus. -/
def oldSkips (words : List Raw) : List Raw :=
  (words.flatMap (oldNumber '-' 'f')).flatMap (oldNumber '+' 's')

def groupedRuns (method : Raw) (runs : List (List Raw)) : List (List Raw) :=
  match String.ofList method with
  | "prepend" => runs.map ([] :: ·)
  | "append" => runs.map (· ++ [[]])
  | "both" => ([[]] :: runs.map (· ++ [[]]))
  | "none" => runs
  | _ => runs.zipIdx.map fun (run, index) => if index = 0 then run else [] :: run

def repeatedTool : Program := fun words =>
  withArguments
    { rules := [option 'c' "count", option 'd' "repeated", option 'D' "all-repeated" .attached,
        option 'f' "skip-fields" .always, wordOption "group" .attached, option 'i' "ignore-case",
        option 's' "skip-chars" .always, option 'u' "unique", option 'z' "zero-terminated",
        option 'w' "check-chars" .always] } (splitAll (oldSkips words)) fun found => do
  let mark := found.mark
  let number (key name : String) : Except Raw (Option Nat) :=
    match found.value? key with
    | none => .ok none
    | some text =>
        match plainCount? text with
        | .ok value => .ok (some value)
        | .error _ => .error (text ++ (": invalid number of " ++ name).toList)
  let likeness : Except Raw Likeness := do
    let fields ← number "f" "fields to skip"
    let chars ← number "s" "bytes to skip"
    let width ← number "w" "bytes to compare"
    return { fields := fields.getD 0, chars := chars.getD 0, width, ignoresCase := found.has "i" }
  match likeness, found.operands with
  | .error message, _ => fail message
  | _, _ :: _ :: extra :: _ => extraOperand extra
  | .ok likeness, operands => do
      if found.has "group" && (found.has "c" || found.has "d" || found.has "D" || found.has "u") then
        misuse "--group is mutually exclusive with -c/-d/-D/-u"
      else if found.has "c" && found.has "D" then
        misuse "printing all duplicated lines and repeat counts is meaningless"
      else
        let name := operands.headD ['-']
        match ← contentOf name with
        | .error error =>
            failOf (if error = .isFolder then "error reading " ++ quoted name
              else quotedIfNeeded name) error
        | .ok content => do
            let runs := likeness.runs (linesOf mark content)
            let lines : List Raw :=
              if found.has "group" then
                (groupedRuns ((found.value? "group").getD "separate") runs).flatten
              else if found.has "D" then
                (groupedRuns ((found.value? "D").getD "none")
                  (runs.filter (1 < ·.length))).flatten
              else
                let kept := runs.filter fun run =>
                  (!found.has "d" || 1 < run.length) && (!found.has "u" || run.length = 1)
                kept.map fun run =>
                  (if found.has "c" then column 7 run.length ++ [' '] else []) ++ run.headD []
            let text := lines.flatMap (· ++ [mark])
            match operands with
            | [_, target] =>
                if target = ['-'] then output text
                else do
                  match ← Eval.writeFile target text with
                  | none => return 0
                  | some error => failOf (quotedIfNeeded target) error
            | _ => output text
where
  /-- Letters behind `-D` are options of their own. -/
  splitAll (words : List Raw) : List Raw :=
    words.flatMap fun word =>
      match word with
      | '-' :: 'D' :: rest => if rest.isEmpty then [word] else [['-', 'D'], '-' :: rest]
      | _ => [word]

end FixtureRunner.Tool
