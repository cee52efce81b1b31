/-
Tools that write what their arguments say.
-/

import FixtureRunner.Tool.Arguments
import FixtureRunner.Tool.Condition
import FixtureRunner.Tool.Printf

namespace FixtureRunner.Tool

open Shell (Eval)

/-! ### Plain output -/

/-- The switches of plain output in front of its words: whether a newline is left off, and
whether escapes are resolved. -/
def echoSwitches : List Raw → Bool → Bool → Bool × Bool × List Raw
  | [], bare, resolves => (bare, resolves, [])
  | word :: rest, bare, resolves =>
      match word with
      | '-' :: letter :: letters =>
          let all := letter :: letters
          if all.all fun char => char = 'n' || char = 'e' || char = 'E' then
            let mode := (all.filter (· ≠ 'n')).getLast?
            echoSwitches rest (bare || all.contains 'n')
              (match mode with
                | some char => char = 'e'
                | none => resolves)
          else
            (bare, resolves, word :: rest)
      | _ => (bare, resolves, word :: rest)

def hexEscape? (text : Raw) : Option (Char × Raw) :=
  let digits := (text.take 2).takeWhile fun char => (Raw.hexDigit? char).isSome
  if digits.isEmpty then none
  else some (Char.ofNat (digits.foldl (fun value char => value * 16 + (Raw.hexDigit? char).getD 0) 0),
    text.drop digits.length)

/-- What stands behind a backslash and what follows it, hexadecimal numbers included. -/
def wideEscape (text : Raw) : Raw × Raw :=
  match text with
  | 'x' :: rest =>
      match hexEscape? rest with
      | some (char, after) => ([char], after)
      | none => ("\\x", rest)
  | _ => plainEscape text

def fullUnescape : Raw → Raw × Bool :=
  unescapeBy fun text =>
    match text with
    | '0' :: rest =>
        let digits := Raw.octalDigits rest
        ([octalChar digits], rest.drop digits.length)
    | _ => wideEscape text

def echoTool : Program := fun words => do
  let (bare, resolves, shown) := echoSwitches words false false
  let line := List.intercalate [' '] shown
  if resolves then
    let (text, ended) := fullUnescape line
    output (text ++ (if bare || ended then [] else ['\n']))
  else
    output (line ++ (if bare then [] else ['\n']))

def toolDialect : Dialect :=
  { badNumber := fun argument fault =>
      quoted argument ++ ": " ++
        (match fault with
          | .notNumeric => "expected a numeric value"
          | .cutShort => "value not completely converted"
          | .tooLarge => "Numerical result out of range")
    badDirective := fun directive => directive ++ ": invalid conversion specification"
    badStatus := 1
    unfinished := fun directive => directive ++ ": invalid conversion specification"
    escape := fun text =>
      match text with
      | 'c' :: _ => ([], [], true)
      | '"' :: rest => (['"'], rest, false)
      | _ =>
          let (shown, after) := wideEscape text
          (shown, after, false)
    unescape := fullUnescape
    modifiers := "hlLqjzt" }

def printfTool : Program := fun words => do
  let words := if words.head? = some ['-', '-'] then words.drop 1 else words
  match words with
  | [] => missingOperand
  | format :: arguments => do
      let done := formatted toolDialect format arguments
      done.complaints.reverse.forM complain
      let status ← output done.written.reverse done.status
      match done.left with
      | [] => return status
      | first :: _ => do
          unless done.ended do
            complain ("warning: ignoring excess arguments, starting with " ++ quoted first)
          return status

/-! ### Numbers -/

structure Fixed where
  value : Int
  places : Nat

def fixed? (text : Raw) : Option Fixed :=
  let body := text.dropWhile Raw.isSpace
  let (isNegative, digits) :=
    match body with
    | '-' :: rest => (true, rest)
    | '+' :: rest => (false, rest)
    | _ => (false, body)
  let (mantissa, exponent) : Raw × Int :=
    let mantissa := digits.takeWhile fun char => char ≠ 'e' && char ≠ 'E'
    let (exponent, rest) := Decimal.Real.exponentAt 'e' (digits.drop mantissa.length)
    if rest.isEmpty then (mantissa, exponent) else (digits, 0)
  let whole := mantissa.takeWhile Char.isDigit
  let fraction? : Option Raw :=
    match mantissa.drop whole.length with
    | [] => some []
    | '.' :: rest => if rest.all Char.isDigit then some rest else none
    | _ => none
  match fraction? with
  | none => none
  | some fraction =>
      if whole.isEmpty && fraction.isEmpty then
        none
      else
        let magnitude := (Raw.nat? (whole ++ fraction)).getD 0
        let shift := exponent - fraction.length
        let (scaled, places) : Nat × Nat :=
          if 0 ≤ shift then (magnitude * Nat.pow 10 (min shift.toNat 400), 0)
          else (magnitude, (-shift).toNat)
        some { value := if isNegative then -(scaled : Int) else scaled, places }

def Fixed.units (number : Fixed) (places : Nat) : Int :=
  number.value * Int.pow 10 (places - number.places)

def Fixed.text (value : Int) (places : Nat) : Raw :=
  (if value < 0 then ['-'] else []) ++ Decimal.Real.placed value.natAbs places false

def zeroPadded (width : Nat) (text : Raw) : Raw :=
  let zeros := List.replicate (width - text.length) '0'
  match text with
  | '-' :: rest => '-' :: zeros ++ rest
  | _ => zeros ++ text

def sequenceFrom (step last : Int) : Nat → Int → List Int → List Int
  | 0, _, found => found.reverse
  | room + 1, current, found =>
      if (0 < step && last < current) || (step < 0 && current < last) then found.reverse
      else sequenceFrom step last room (current + step) (current :: found)

def sequenceArguments : Nat → List Raw → Found → Except OptionFault Arguments
  | 0, words, found => .ok { options := found.reverse, operands := words }
  | room + 1, words, found =>
      let usage : Usage :=
        { rules := [option 's' "separator" .always, option 'w' "equal-width",
            option 'f' "format" .always] }
      match words with
      | ('-' :: char :: _) :: _ =>
          if char.isDigit || char = '.' then
            .ok { options := found.reverse, operands := words }
          else
            let width := if usage.rules.any fun rule =>
              rule.valued = .always && rule.letter = some char && (words.headD []).length = 2 then 2 else 1
            match argumentsFrom usage (words.length + 1) (words.take width) [] [] with
            | .error fault => .error fault
            | .ok some_ =>
                if words.headD [] = ['-', '-'] then
                  .ok { options := found.reverse, operands := words.drop 1 }
                else
                  sequenceArguments room (words.drop width) (some_.options.reverse ++ found)
      | _ => .ok { options := found.reverse, operands := words }

def numberFormat? (format : Raw) : Option (Raw × Conversion × Raw) :=
  let front := format.takeWhile (· ≠ '%')
  match format.drop front.length with
  | '%' :: rest =>
      let (flagged, afterFlags) := flagsFrom rest {}
      let (width, afterWidth, _) := countFrom afterFlags []
      let wide := { flagged with width := (width.getD 0).natAbs }
      let (precise, after) :=
        match afterWidth with
        | '.' :: others =>
            let (precision, after, _) := countFrom others []
            ({ wide with precision := some (precision.getD 0).toNat }, after)
        | _ => (wide, afterWidth)
      match after with
      | letter :: back =>
          if "eEfFgG".toList.contains letter then some (front, { precise with letter }, back) else none
      | [] => none
  | _ => none

def sequenceTool : Program := fun words => do
  match sequenceArguments (words.length + 1) words [] with
  | .error fault => misuse fault.message
  | .ok found =>
      let separator := (found.value? "s").getD ['\n']
      let bad? := found.operands.find? fun word => (fixed? word).isNone
      match bad?, found.operands with
      | _, [] => missingOperand
      | _, _ :: _ :: _ :: extra :: _ => extraOperand extra
      | some bad, _ => misuse ("invalid floating point argument: " ++ quoted bad)
      | none, operands => do
          let numbers := operands.filterMap fixed?
          let one : Fixed := { value := 1, places := 0 }
          let (first, step, last) : Fixed × Fixed × Fixed :=
            match numbers with
            | [last] => (one, one, last)
            | [first, last] => (first, one, last)
            | first :: step :: last :: _ => (first, step, last)
            | [] => (one, one, one)
          if step.value = 0 then
            misuse ("invalid Zero increment value: " ++ quoted (operands.getD 1 []))
          else do
            let shown := max first.places step.places
            let places := max shown last.places
            let values := sequenceFrom (step.units places) (last.units places) (Nat.pow 2 22)
              (first.units places) []
            let plain (value : Int) : Raw := Fixed.text (value / Int.pow 10 (places - shown)) shown
            let texts : List Raw :=
              match (found.value? "f").bind numberFormat? with
              | some (front, conversion, back) =>
                  values.map fun value =>
                    front ++ realText conversion (.quotient (value < 0) value.natAbs (Nat.pow 10 places)) ++ back
              | none => values.map plain
            let width := texts.foldl (fun most text => max most text.length) 0
            let padded := if found.has "w" then texts.map (zeroPadded width) else texts
            if padded.isEmpty then return 0
            else output (List.intercalate separator padded ++ ['\n'])

/-! ### Names -/

def cutSuffix (suffix name : Raw) : Raw :=
  if suffix.isSuffixOf name && suffix ≠ name then name.take (name.length - suffix.length) else name

def baseNameTool : Program := fun words =>
  withArguments
    { rules := [option 'a' "multiple", option 's' "suffix" .always, option 'z' "zero"]
      operandsLast := true } words fun found => do
  let ending := [found.mark]
  let isSeveral := found.has "a" || found.has "s"
  match found.operands with
  | [] => missingOperand
  | names =>
      if isSeveral then
        let suffix := (found.value? "s").getD []
        output (names.flatMap fun name => cutSuffix suffix (baseName name) ++ ending)
      else
        match names with
        | _ :: _ :: extra :: _ => extraOperand extra
        | name :: suffix :: _ => output (cutSuffix suffix (baseName name) ++ ending)
        | [name] => output (baseName name ++ ending)
        | [] => missingOperand

def folderNameTool : Program := fun words =>
  withArguments { rules := [option 'z' "zero"] } words fun found => do
  let ending := [found.mark]
  match found.operands with
  | [] => missingOperand
  | names => output (names.flatMap fun name => folderName name ++ ending)

def workingFolderTool : Program := fun words =>
  withArguments { rules := [option 'L' "logical", option 'P' "physical"] } words fun found => do
  let physical := Raw.ofString (Disk.pathTo (← Eval.disk).here).text
  let logical := ((← Eval.lookup? "PWD").getD physical)
  let isLogical := found.last? ["L", "P"] = some "L" &&
    (((← Eval.disk).find (Eval.pathOf logical)).toOption.map (·.1)) = some (← Eval.disk).here
  output ((if isLogical then logical else physical) ++ ['\n'])

def variableTool : Program := fun words =>
  withArguments { rules := [option '0' "null"], status := 2, operandsLast := true } words fun found => do
  let ending : Raw := if found.has "0" then ['\x00'] else ['\n']
  let bindings := (← Eval.process).bindings
  match found.operands with
  | [] =>
      output (bindings.reverse.flatMap fun held => held.name ++ '=' :: held.value.getD [] ++ ending)
  | names => do
      let values := names.map fun name => (bindings.find? (·.name = name)).bind (·.value)
      let status := if values.all Option.isSome then 0 else 1
      output (values.flatMap fun value? =>
        match value? with
        | some value => value ++ ending
        | none => []) status

/-! ### Conditions -/

def conditionTool : Program := fun words => do
  match holds (← Eval.disk) words with
  | .ok true => return 0
  | .ok false => return 1
  | .error fault => fail fault.toolMessage 2

def bracketTool : Program := fun words => do
  if words.getLast? = some [']'] then
    conditionTool words.dropLast
  else
    fail "missing ']'" 2

/-! ### Time -/

def milliseconds? (text : Raw) : Option Nat :=
  let (number, unit) :=
    match text.reverse with
    | 's' :: rest => (rest.reverse, 1)
    | 'm' :: rest => (rest.reverse, 60)
    | 'h' :: rest => (rest.reverse, 3600)
    | 'd' :: rest => (rest.reverse, 86400)
    | _ => (text, 1)
  match fixed? number with
  | some value =>
      if value.value < 0 then none
      else some (value.value.natAbs * 1000 * unit / Nat.pow 10 value.places)
  | none =>
      if number.map Char.toLower = "inf" || number.map Char.toLower = "infinity" then
        some (Nat.pow 2 60)
      else
        none

def sleepTool : Program := fun words =>
  withArguments { } words fun found => do
  match found.operands with
  | [] => missingOperand
  | operands => do
      let bad := operands.filter fun word => (milliseconds? word).isNone
      if bad.isEmpty then do
        Eval.pass ((operands.map fun word => (milliseconds? word).getD 0).foldl (· + ·) 0)
        return 0
      else do
        bad.forM fun word => complain ("invalid time interval " ++ quoted word)
        hint
        return 1

def answerTool (answer : String) : Program := fun _ =>
  output (answer.toList ++ ['\n'])

def identityTool : Program := fun words =>
  withArguments
    { rules := [option 'u' "user", option 'g' "group", option 'n' "name", option 'G' "groups",
        option 'r' "real"] } words fun found =>
  if found.has "u" || found.has "g" || found.has "G" then
    output ((if found.has "n" then "root" else "0").toList ++ ['\n'])
  else
    output "uid=0(root) gid=0(root) groups=0(root)\n"

end FixtureRunner.Tool
