/-
Replacing, deleting and squeezing characters: sets of characters as they are written, and
what they stand for.
-/

import FixtureRunner.Search.Expression
import FixtureRunner.Tool.Arguments

namespace FixtureRunner.Tool

open Shell (Eval)

/-! ### Sets -/

inductive Span where
  | one (char : Char)
  | range (first last : Char)
  | named (name : String)
  | equivalents (char : Char)
  | times (char : Char) (count : Option Nat)

inductive SetFault where
  | reversed (first last : Char)
  | noClassName
  | noEquivalent
  | badClass (name : Raw)
  | badEquivalent (text : Raw)
  | badCount (text : Raw)
deriving DecidableEq

def printable (char : Char) : Raw :=
  if isShown char then [char] else octal char

def SetFault.message : SetFault → Raw
  | .reversed first last =>
      "range-endpoints of '" ++ printable first ++ '-' :: printable last ++
        "' are in reverse collating sequence order"
  | .noClassName => "missing character class name '[::]'"
  | .noEquivalent => "missing equivalence class character '[==]'"
  | .badClass name => "invalid character class " ++ quoted name
  | .badEquivalent text =>
      text ++ ": equivalence class operand must be a single character"
  | .badCount text =>
      "invalid repeat count " ++ quoted text ++ " in [c*n] construct"

abbrev Written := Char × Bool

def writtenFrom : Nat → Raw → List Written → List Written
  | 0, _, found => found.reverse
  | _ + 1, [], found => found.reverse
  | room + 1, '\\' :: rest, found =>
      let digits := Raw.octalDigits rest
      if !digits.isEmpty then
        let used := if 255 < (Raw.digits? 8 digits).getD 0 then digits.take 2 else digits
        let value := (Raw.digits? 8 used).getD 0
        writtenFrom room (rest.drop used.length) ((Char.ofNat value, true) :: found)
      else
        match rest with
        | [] => (('\\', true) :: found).reverse
        | char :: others =>
            writtenFrom room others (((Raw.letterEscape? char).getD char, true) :: found)
  | room + 1, char :: rest, found => writtenFrom room rest ((char, false) :: found)

def untilClosing (mark : Char) : List Written → List Written → Option (Raw × List Written)
  | first :: second :: rest, found =>
      if first = (mark, false) && second = (']', false) then
        some ((found.reverse.map (·.1)), rest)
      else
        untilClosing mark (second :: rest) (first :: found)
  | _, _ => none

def isStarred : List Written → Bool
  | ('*', false) :: rest =>
      (rest.dropWhile fun written => written.1.isDigit && !written.2).head? = some (']', false)
  | _ => false

def repetition? (text : List Written) : Except SetFault (Option (Span × List Written)) :=
  match text with
  | (char, _) :: ('*', false) :: rest =>
      let count := rest.takeWhile (· ≠ (']', false))
      let digits := count.map (·.1)
      if count.length = rest.length then
        .ok none
      else
        let after := rest.drop (count.length + 1)
        if digits.isEmpty then
          .ok (some (.times char none, after))
        else
          let base := if digits.head? = some '0' then 8 else 10
          match Raw.digits? base digits with
          | some 0 => .ok (some (.times char none, after))
          | some number => .ok (some (.times char (some number), after))
          | none => .error (.badCount digits)
  | _ => .ok none

def bracketed? (text : List Written) : Except SetFault (Option (Span × List Written)) :=
  match text with
  | ('[', false) :: (':', false) :: rest =>
      match untilClosing ':' rest [] with
      | some (name, after) =>
          if isStarred rest then repetition? ((':', false) :: rest)
          else if name.isEmpty then .error .noClassName
          else if Bracketed.classNames.contains (String.ofList name) then
            .ok (some (.named (String.ofList name), after))
          else .error (.badClass name)
      | none => repetition? ((':', false) :: rest)
  | ('[', false) :: ('=', false) :: rest =>
      match untilClosing '=' rest [] with
      | some (name, after) =>
          match name with
          | [] => if isStarred rest then repetition? (('=', false) :: rest) else .error .noEquivalent
          | [char] => .ok (some (.equivalents char, after))
          | _ =>
              if isStarred rest then repetition? (('=', false) :: rest)
              else .error (.badEquivalent name)
      | none => repetition? (('=', false) :: rest)
  | ('[', false) :: rest => repetition? rest
  | _ => .ok none

def spansFrom : Nat → List Written → List Span → Except SetFault (List Span)
  | 0, _, found => .ok found.reverse
  | _ + 1, [], found => .ok found.reverse
  | room + 1, text, found => do
      match ← (if 3 ≤ text.length then bracketed? text else .ok none) with
      | some (span, after) => spansFrom room after (span :: found)
      | none =>
          match text with
          | (first, _) :: ('-', false) :: (last, _) :: rest =>
              if last < first then throw (.reversed first last)
              else spansFrom room rest (.range first last :: found)
          | (char, _) :: rest => spansFrom room rest (.one char :: found)
          | [] => return found.reverse

def spans (text : Raw) : Except SetFault (List Span) :=
  spansFrom (text.length + 1) (writtenFrom (text.length + 1) text []) []

def allChars : List Char :=
  (List.range 256).map Char.ofNat

def Span.chars (room : Nat) : Span → List Char
  | .one char => [char]
  | .range first last => allChars.filter fun char => first ≤ char && char ≤ last
  | .named name => allChars.filter (Bracketed.inClass name)
  | .equivalents char => [char]
  | .times char (some count) => List.replicate (min count (Nat.pow 2 20)) char
  | .times char none => List.replicate room char

def Span.isOpen : Span → Bool
  | .times _ none => true
  | _ => false

def Span.isClass : Span → Bool
  | .named _ => true
  | _ => false

def Span.isCase : Span → Bool
  | .named name => name = "upper" || name = "lower"
  | _ => false

def Span.isEquivalents : Span → Bool
  | .equivalents _ => true
  | _ => false

def charsOf (wanted : Nat) (set : List Span) : List Char :=
  let fixed := (set.map fun span => (span.chars 0).length).foldl (· + ·) 0
  set.flatMap (Span.chars (wanted - fixed))

/-! ### Translation -/

def caseStarts : List Span → Nat → List Nat
  | [], _ => []
  | span :: rest, position =>
      (if span.isCase then [position] else []) ++ caseStarts rest (position + (span.chars 0).length)

structure Change where
  complements : Bool
  deletes : Bool
  squeezes : Bool
  truncates : Bool
  first : List Span
  second : Option (List Span)

def Change.translates (change : Change) : Bool :=
  change.second.isSome && !change.deletes

def Change.domain (change : Change) : List Char :=
  let chars := charsOf 0 change.first
  if change.complements then allChars.filter fun char => !chars.contains char else chars

def Change.refusal? (change : Change) : Option Raw :=
  if change.first.any Span.isOpen then
    some "the [c*] repeat construct may not appear in string1"
  else
    match change.second with
    | none => none
    | some second =>
        let domain := change.domain
        let target := charsOf domain.length second
        let isMisaligned := (caseStarts second 0).any fun start =>
          !(caseStarts change.first 0).contains start
        if 1 < (second.filter Span.isOpen).length then
          some "only one [c*] repeat construct may appear in string2"
        else if !change.translates then
          if second.any Span.isOpen then
            some "the [c*] construct may appear in string2 only when translating"
          else
            none
        else if second.any Span.isEquivalents then
          some "[=c=] expressions may not appear in string2 when translating"
        else if second.any fun span => span.isClass && !span.isCase then
          some ("when translating, the only character classes that may appear in\n" ++
            "string2 are 'upper' and 'lower'").toList
        else if !change.complements && isMisaligned then
          some "misaligned [:upper:] and/or [:lower:] construct"
        else if change.complements && change.first.any Span.isClass &&
            1 < target.eraseDups.length then
          some ("when translating with complemented character classes,\n" ++
            "string2 must map all characters in the domain to one").toList
        else if target.length < domain.length && !change.truncates then
          if target.isEmpty then
            some "when not truncating set1, string2 must be non-empty"
          else if (second.getLast?.map Span.isClass).getD false then
            some ("when translating with string1 longer than string2,\n" ++
              "the latter string must not end with a character class").toList
          else
            none
        else
          none

def Change.table (change : Change) : Array Char :=
  match change.second with
  | none => allChars.toArray
  | some second =>
      let domain := change.domain
      let target := charsOf domain.length second
      let padding : List Char :=
        if change.truncates then []
        else List.replicate (domain.length - target.length) (target.getLast?.getD '\x00')
      (domain.zip (target ++ padding)).foldl
        (fun table pair => table.setIfInBounds pair.1.toNat pair.2) allChars.toArray

def squeezedFrom (set : List Char) : Option Char → Raw → Raw → Raw
  | _, [], found => found
  | before, char :: rest, found =>
      if before = some char && set.contains char then squeezedFrom set before rest found
      else squeezedFrom set (some char) rest (char :: found)

def Change.apply (change : Change) (text : Raw) : Raw :=
  let domain := change.domain
  let kept := if change.deletes then text.filter fun char => !domain.contains char else text
  let table := change.table
  let replaced :=
    if change.translates then kept.map fun char => table.getD char.toNat char else kept
  let squeezed : List Char :=
    match change.second with
    | some second => charsOf domain.length second
    | none => domain
  if change.squeezes then (squeezedFrom squeezed none replaced []).reverse else replaced

def misuseWith (message remark : Raw) : Eval Nat := do
  complain message
  Eval.say 2 (remark ++ ['\n'])
  hint
  return 1

def characterTool : Program := fun words =>
  withArguments
    { rules := [option 'c' "complement", option 'C' "complement", option 'd' "delete",
        option 's' "squeeze-repeats", option 't' "truncate-set1"]
      operandsLast := true } words fun found => do
  let deletes := found.has "d"
  let squeezes := found.has "s"
  let least := if deletes = squeezes then 2 else 1
  let most := if deletes && !squeezes then 1 else 2
  match found.operands with
  | [] => missingOperand
  | firstText :: others =>
      if others.length + 1 < least then
        misuseWith ("missing operand after " ++ quoted firstText)
          ((if squeezes then "Two strings must be given when both deleting and squeezing repeats."
            else "Two strings must be given when translating.").toList)
      else if most < others.length + 1 then
        let extra := quoted (others.getD (most - 1) [])
        if others.length = 1 then
          misuseWith ("extra operand " ++ extra)
            "Only one string may be given when deleting without squeezing repeats."
        else
          misuse ("extra operand " ++ extra)
      else
        let read : Except SetFault (List Span × Option (List Span)) := do
          let first ← spans firstText
          match others with
          | [] => return (first, none)
          | text :: _ => return (first, some (← spans text))
        match read with
        | .error fault => fail fault.message
        | .ok (first, second) => do
            let change : Change :=
              { complements := found.has "c" || found.has "C"
                deletes
                squeezes
                truncates := found.has "t"
                first
                second }
            match change.refusal? with
            | some message => fail message
            | none => do
                match ← Eval.readAll 0 with
                | .error error => failOf "read error" error
                | .ok text => output (change.apply text)

end FixtureRunner.Tool
