/-
Formatted output: texts, characters and numbers in fields.
-/

import FixtureRunner.Decimal.Notation
import FixtureRunner.Tool.Message

namespace FixtureRunner.Tool

open Shell (Eval)

/-! ### Escapes -/

def escapedLetter? (char : Char) : Option Char :=
  match char with
  | '\\' => some '\\'
  | 'e' => some '\x1B'
  | _ => Raw.letterEscape? char

def octalChar (digits : Raw) : Char :=
  Char.ofNat ((Raw.digits? 8 digits).getD 0 % 256)

/-- The character behind a backslash and what follows it; a backslash that escapes nothing
stands for itself. -/
def escape (text : Raw) : Char × Raw :=
  let digits := Raw.octalDigits text
  if !digits.isEmpty then
    (octalChar digits, text.drop digits.length)
  else
    match text.head?.bind escapedLetter? with
    | some found => (found, text.drop 1)
    | none => ('\\', text)

def plainEscape (text : Raw) : Raw × Raw :=
  let (char, after) := escape text
  ([char], after)

/-- A text with its escapes resolved, the last character first, and whether one of them
ended the output; `room` bounds its length. -/
def unescapeFrom (resolve : Raw → Raw × Raw) : Nat → Raw → Raw → Raw × Bool
  | 0, _, found => (found, false)
  | _ + 1, [], found => (found, false)
  | _ + 1, '\\' :: 'c' :: _, found => (found, true)
  | room + 1, '\\' :: rest, found =>
      let (shown, after) := resolve rest
      unescapeFrom resolve room after (shown.reverse ++ found)
  | room + 1, char :: rest, found => unescapeFrom resolve room rest (char :: found)

def unescapeBy (resolve : Raw → Raw × Raw) (text : Raw) : Raw × Bool :=
  let (found, ended) := unescapeFrom resolve (text.length + 1) text []
  (found.reverse, ended)

def unescape : Raw → Raw × Bool :=
  unescapeBy fun text =>
    match text with
    | '0' :: rest => plainEscape (if (Raw.octalDigits rest).isEmpty then text else rest)
    | _ => plainEscape text

def echoWords (bare : Bool) : List Raw → Raw
  | [] => if bare then [] else ['\n']
  | word :: rest =>
      let (text, ended) := unescape word
      if ended then text
      else if rest.isEmpty then text ++ (if bare then [] else ['\n'])
      else text ++ ' ' :: echoWords bare rest

/-! ### Conversions -/

structure Conversion where
  left : Bool := false
  zeros : Bool := false
  plus : Bool := false
  space : Bool := false
  alternate : Bool := false
  width : Nat := 0
  precision : Option Nat := none
  letter : Char := 's'

def padded (conversion : Conversion) (text : Raw) : Raw :=
  let filler := List.replicate (conversion.width - text.length) ' '
  if conversion.left then text ++ filler else filler ++ text

def unsignedText (base : Nat) (upper : Bool) (value : Nat) : Raw :=
  let digits := Nat.toDigits base value
  if upper then digits.map Char.toUpper else digits

def signText (conversion : Conversion) (isNegative : Bool) : Raw :=
  if isNegative then ['-']
  else if conversion.plus then ['+']
  else if conversion.space then [' ']
  else []

/-- A number with its sign, at least as many digits as the precision asks for, and zeros
up to the width if they are wanted. -/
def numberText (conversion : Conversion) (value : Int) : Raw :=
  let magnitude : Raw :=
    match conversion.letter with
    | 'o' => unsignedText 8 false (value % Int.pow 2 64).toNat
    | 'x' => unsignedText 16 false (value % Int.pow 2 64).toNat
    | 'X' => unsignedText 16 true (value % Int.pow 2 64).toNat
    | 'u' => unsignedText 10 false (value % Int.pow 2 64).toNat
    | _ => unsignedText 10 false value.natAbs
  let isSigned := conversion.letter = 'd' || conversion.letter = 'i'
  let sign : Raw :=
    if isSigned then signText conversion (value < 0)
    else if conversion.alternate && conversion.letter = 'x' && value ≠ 0 then ['0', 'x']
    else if conversion.alternate && conversion.letter = 'X' && value ≠ 0 then ['0', 'X']
    else []
  let exact : Raw :=
    match conversion.precision with
    | some 0 => if value = 0 then [] else magnitude
    | some least => List.replicate (least - magnitude.length) '0' ++ magnitude
    | none => magnitude
  let marked : Raw :=
    if conversion.alternate && conversion.letter = 'o' && exact.head? ≠ some '0' then '0' :: exact
    else exact
  let filled : Raw :=
    if conversion.zeros && !conversion.left && conversion.precision.isNone then
      List.replicate (conversion.width - sign.length - marked.length) '0' ++ marked
    else
      marked
  padded conversion (sign ++ filled)

def realText (conversion : Conversion) (value : Decimal.Real) : Raw :=
  let (body, isNumber) :=
    value.magnitudeText conversion.letter (conversion.precision.getD 6) conversion.alternate
  let sign := signText conversion value.isNegative
  let filled : Raw :=
    if conversion.zeros && !conversion.left && isNumber then
      List.replicate (conversion.width - sign.length - body.length) '0' ++ body
    else
      body
  padded conversion (sign ++ filled)

def cutText (conversion : Conversion) (text : Raw) : Raw :=
  match conversion.precision with
  | none => text
  | some most => text.take most

/-! ### Numbers in arguments -/

inductive NumberFault where
  | notNumeric
  | cutShort
  | tooLarge
deriving DecidableEq

def numberArgument (isSigned : Bool) (text : Raw) : Int × Option NumberFault :=
  match text with
  | ['\''] | ['"'] => (0, none)
  | '\'' :: char :: _ | '"' :: char :: _ => (char.toNat, none)
  | _ =>
      let trimmed := text.dropWhile Raw.isSpace
      let (isNegative, body) :=
        match trimmed with
        | '-' :: rest => (true, rest)
        | '+' :: rest => (false, rest)
        | _ => (false, trimmed)
      let (value, after) := Raw.wholeAt body
      let isEmpty := after.length = body.length
      let rest := if isEmpty then text else after
      let greatest : Nat := if isSigned then Nat.pow 2 63 - (if isNegative then 0 else 1) else Nat.pow 2 64 - 1
      let bounded := min value greatest
      let fault : Option NumberFault :=
        if !rest.isEmpty then some (if isEmpty then .notNumeric else .cutShort)
        else if greatest < value then some .tooLarge
        else none
      let signed : Int := if isNegative && (isSigned || value ≤ greatest) then -(bounded : Int) else bounded
      (signed, fault)

def realArgument (text : Raw) : Decimal.Real × Option NumberFault :=
  match text with
  | ['\''] | ['"'] => (Decimal.Real.zero, none)
  | '\'' :: char :: _ | '"' :: char :: _ => (.quotient false char.toNat 1, none)
  | _ =>
      match Decimal.Real.read? text with
      | none => (Decimal.Real.zero, if text.isEmpty then none else some .notNumeric)
      | some (exact, rest) =>
          let (value, isOut) := exact.rounded
          (value, if !rest.isEmpty then some .cutShort else if isOut then some .tooLarge else none)

/-! ### Formats -/

structure Dialect where
  badNumber : Raw → NumberFault → Raw
  badDirective : Raw → Raw
  badStatus : Nat
  unfinished : Raw → Raw
  escape : Raw → Raw × Raw × Bool
  unescape : Raw → Raw × Bool
  modifiers : Raw := []

structure Printing where
  written : Raw := []
  left : List Raw
  status : Nat := 0
  complaints : List Raw := []
  ended : Bool := false

namespace Printing

def add (printing : Printing) (text : Raw) : Printing :=
  { printing with written := text.reverse ++ printing.written }

def giveUp (printing : Printing) (status : Nat) (complaint : Raw) : Printing :=
  { printing with status, complaints := complaint :: printing.complaints, ended := true }

def fault (printing : Printing) (complaint : Raw) : Printing :=
  { printing with status := 1, complaints := complaint :: printing.complaints }

end Printing

def countFrom (text : Raw) (left : List Raw) : Option Int × Raw × List Raw :=
  match text with
  | '*' :: rest =>
      match left with
      | [] => (some 0, rest, [])
      | argument :: others => (some (numberArgument true argument).1, rest, others)
  | _ =>
      let digits := text.takeWhile Char.isDigit
      ((Raw.nat? digits).map fun value => (value : Int), text.drop digits.length, left)

def flagsFrom : Raw → Conversion → Conversion × Raw
  | '-' :: rest, conversion => flagsFrom rest { conversion with left := true }
  | '0' :: rest, conversion => flagsFrom rest { conversion with zeros := true }
  | '+' :: rest, conversion => flagsFrom rest { conversion with plus := true }
  | ' ' :: rest, conversion => flagsFrom rest { conversion with space := true }
  | '#' :: rest, conversion => flagsFrom rest { conversion with alternate := true }
  | text, conversion => (conversion, text)

def convert (dialect : Dialect) (directive : Raw) (conversion : Conversion) (printing : Printing) :
    Printing :=
  let argument := printing.left.headD []
  let next := { printing with left := printing.left.drop 1 }
  let judged (printing : Printing) (fault? : Option NumberFault) : Printing :=
    match fault? with
    | none => printing
    | some fault => printing.fault (dialect.badNumber argument fault)
  match conversion.letter with
  | 's' => next.add (padded conversion (cutText conversion argument))
  | 'c' => next.add (padded conversion [argument.headD '\x00'])
  | 'b' =>
      let (text, ended) := dialect.unescape argument
      { next.add (padded conversion (cutText conversion text)) with ended }
  | 'd' | 'i' =>
      let (value, fault) := numberArgument true argument
      judged (next.add (numberText conversion value)) fault
  | 'o' | 'u' | 'x' | 'X' =>
      let (value, fault) := numberArgument false argument
      judged (next.add (numberText conversion value)) fault
  | 'e' | 'E' | 'f' | 'F' | 'g' | 'G' =>
      let (value, fault) := realArgument argument
      judged (next.add (realText conversion value)) fault
  | _ => printing.giveUp dialect.badStatus (dialect.badDirective directive)

def formatOnce (dialect : Dialect) : Nat → Raw → Printing → Printing
  | 0, _, printing => printing
  | _ + 1, [], printing => printing
  | room + 1, '\\' :: rest, printing =>
      let (text, after, ended) := dialect.escape rest
      let added := printing.add text
      if ended then { added with ended } else formatOnce dialect room after added
  | room + 1, '%' :: '%' :: rest, printing => formatOnce dialect room rest (printing.add ['%'])
  | room + 1, '%' :: rest, printing =>
      let (flagged, afterFlags) := flagsFrom rest {}
      let (width, afterWidth, left) := countFrom afterFlags printing.left
      let wide :=
        match width with
        | none => flagged
        | some value =>
            { flagged with width := value.natAbs, left := flagged.left || value < 0 }
      let (precise, afterPrecision, left) :=
        match afterWidth with
        | '.' :: others =>
            let (precision, after, left) := countFrom others left
            let wanted := precision.getD 0
            ({ wide with precision := if wanted < 0 then none else some wanted.toNat }, after, left)
        | _ => (wide, afterWidth, left)
      let afterModifiers := afterPrecision.dropWhile dialect.modifiers.contains
      match afterModifiers with
      | [] => printing.giveUp dialect.badStatus (dialect.unfinished ('%' :: rest))
      | letter :: after =>
          let directive := '%' :: rest.take (rest.length - after.length)
          let done := convert dialect directive { precise with letter } { printing with left }
          if done.ended then done else formatOnce dialect room after done
  | room + 1, char :: rest, printing => formatOnce dialect room rest (printing.add [char])

def formatAll (dialect : Dialect) : Nat → Raw → Printing → Printing
  | 0, _, printing => printing
  | room + 1, format, printing =>
      let once := formatOnce dialect (format.length + 1) format printing
      if once.ended || once.left.isEmpty || once.left.length = printing.left.length then once
      else formatAll dialect room format once

def formatted (dialect : Dialect) (format : Raw) (arguments : List Raw) : Printing :=
  formatAll dialect (arguments.length + 1) format { left := arguments }

end FixtureRunner.Tool
