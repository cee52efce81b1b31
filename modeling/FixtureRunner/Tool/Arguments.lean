/-
Arguments of tools: options written as letters behind a dash or as words behind two,
with values or without, and operands between them.
-/

import FixtureRunner.Tool.Message

namespace FixtureRunner.Tool

open Shell (Eval)

inductive Valued where
  | never
  | always
  | attached
deriving DecidableEq

structure OptionRule where
  letter : Option Char := none
  word : String := ""
  valued : Valued := .never

def OptionRule.key (rule : OptionRule) : String :=
  match rule.letter with
  | some letter => String.ofList [letter]
  | none => rule.word

structure Usage where
  rules : List OptionRule := []
  status : Nat := 1
  operandsLast : Bool := false
  hint : Eval Unit := hint

def flags (letters : String) : List OptionRule :=
  letters.toList.map fun letter => { letter := some letter }

def valued (letters : String) : List OptionRule :=
  letters.toList.map fun letter => { letter := some letter, valued := .always }

def option (letter : Char) (word : String) (valued : Valued := .never) : OptionRule :=
  { letter := some letter, word, valued }

def wordOption (word : String) (valued : Valued := .never) : OptionRule :=
  { word, valued }

structure Arguments where
  options : List (String × Option Raw) := []
  operands : List Raw := []

namespace Arguments

def has (found : Arguments) (key : String) : Bool :=
  found.options.any (·.1 = key)

/-- The files that are named, or the input. -/
def files (found : Arguments) : List Raw :=
  if found.operands.isEmpty then [['-']] else found.operands

/-- The character that ends a line. -/
def mark (found : Arguments) : Char :=
  if found.has "z" then '\x00' else '\n'

def values (found : Arguments) (key : String) : List Raw :=
  found.options.filterMap fun held => if held.1 = key then held.2 else none

def value? (found : Arguments) (key : String) : Option Raw :=
  (found.values key).getLast?

def last? (found : Arguments) (keys : List String) : Option String :=
  ((found.options.filter fun held => keys.contains held.1).getLast?).map (·.1)

end Arguments

inductive OptionFault where
  | unknownLetter (letter : Char)
  | unknownWord (word : Raw)
  | missingValue (letter : Char)
  | missingWordValue (word : String)
  | needlessValue (word : String)
  | ambiguous (word : Raw) (candidates : List String)

def OptionFault.message : OptionFault → Raw
  | .unknownLetter letter => "invalid option -- '" ++ [letter, '\'']
  | .unknownWord word => "unrecognized option '--" ++ word ++ ['\'']
  | .missingValue letter => "option requires an argument -- '" ++ [letter, '\'']
  | .missingWordValue word => ("option '--" ++ word ++ "' requires an argument").toList
  | .needlessValue word => ("option '--" ++ word ++ "' doesn't allow an argument").toList
  | .ambiguous word candidates =>
      "option '--" ++ word ++ "' is ambiguous; possibilities:" ++
        candidates.flatMap fun candidate => (" '--" ++ candidate ++ "'").toList

def ruleFor (usage : Usage) (word name : Raw) : Except OptionFault OptionRule :=
  let wordy := usage.rules.filter (·.word ≠ "")
  match wordy.find? (·.word.toList = name) with
  | some rule => .ok rule
  | none =>
      match wordy.filter fun rule => name.isPrefixOf rule.word.toList with
      | [] => .error (.unknownWord word)
      | rule :: others =>
          if others.all fun other => other.key = rule.key && other.valued = rule.valued then .ok rule
          else .error (.ambiguous word ((rule :: others).map (·.word)))

abbrev Found := List (String × Option Raw)

/-- Options written as letters behind one dash, the last one first, and one that takes its
value from the next word. -/
def letters (usage : Usage) : Raw → Found → Except OptionFault (Found × Option Char)
  | [], found => .ok (found, none)
  | letter :: rest, found =>
      match usage.rules.find? (·.letter = some letter) with
      | none => .error (.unknownLetter letter)
      | some rule =>
          match rule.valued with
          | .never => letters usage rest ((rule.key, none) :: found)
          | .attached =>
              .ok ((rule.key, if rest.isEmpty then none else some rest) :: found, none)
          | .always =>
              if rest.isEmpty then .ok (found, some letter)
              else .ok ((rule.key, some rest) :: found, none)

/-- Reads arguments, of which those behind `--` are operands; options and operands are
collected with the last ones first, and `room` bounds their number. -/
def argumentsFrom (usage : Usage) :
    Nat → List Raw → Found → List Raw → Except OptionFault Arguments
  | 0, words, found, operands => finish words found operands
  | _ + 1, [], found, operands => finish [] found operands
  | _ + 1, ['-', '-'] :: rest, found, operands => finish rest found operands
  | room + 1, ('-' :: '-' :: word) :: rest, found, operands => do
      let name := word.takeWhile (· ≠ '=')
      let value? := if name.length < word.length then some (word.drop (name.length + 1)) else none
      let rule ← ruleFor usage word name
      match rule.valued, value?, rest with
      | .never, some _, _ => throw (.needlessValue rule.word)
      | .never, none, _ => argumentsFrom usage room rest ((rule.key, none) :: found) operands
      | .attached, _, _ => argumentsFrom usage room rest ((rule.key, value?) :: found) operands
      | .always, some value, _ =>
          argumentsFrom usage room rest ((rule.key, some value) :: found) operands
      | .always, none, value :: after =>
          argumentsFrom usage room after ((rule.key, some value) :: found) operands
      | .always, none, [] => throw (.missingWordValue rule.word)
  | room + 1, ('-' :: first :: more) :: rest, found, operands => do
      match ← letters usage (first :: more) found, rest with
      | (options, some letter), value :: after =>
          argumentsFrom usage room after ((String.ofList [letter], some value) :: options) operands
      | (_, some letter), [] => throw (.missingValue letter)
      | (options, none), _ => argumentsFrom usage room rest options operands
  | room + 1, operand :: rest, found, operands =>
      if usage.operandsLast then finish (operand :: rest) found operands
      else argumentsFrom usage room rest found (operand :: operands)
where
  finish (rest : List Raw) (found : Found) (operands : List Raw) : Except OptionFault Arguments :=
    .ok { options := found.reverse, operands := operands.reverse ++ rest }

def withArguments (usage : Usage) (words : List Raw) (action : Arguments → Eval Nat) :
    Eval Nat := do
  match argumentsFrom usage (words.length + 1) words [] [] with
  | .ok found => action found
  | .error fault => do
      complain fault.message
      usage.hint
      return usage.status

/-! ### Counts -/

inductive CountFault where
  | invalid
  | tooLarge
deriving DecidableEq

def suffixFactor? (suffix : Raw) : Option Nat :=
  let power (base : Nat) (letter : Char) : Option Nat :=
    (match letter with
      | 'k' | 'K' => some 1
      | 'M' | 'm' => some 2
      | 'G' | 'g' => some 3
      | 'T' | 't' => some 4
      | 'P' => some 5
      | 'E' => some 6
      | 'Z' => some 7
      | 'Y' => some 8
      | _ => none).map (Nat.pow base)
  match suffix with
  | [] => some 1
  | ['b'] => some 512
  | [letter] => power 1024 letter
  | [letter, 'B'] => power 1000 letter
  | [letter, 'i', 'B'] => power 1024 letter
  | _ => none

def greatestCount : Nat := Nat.pow 2 64 - 1

def withoutPlus : Raw → Raw
  | '+' :: rest => rest
  | text => text

def count? (text : Raw) : Except CountFault Nat :=
  let body := text.dropWhile Raw.isSpace
  let bare := withoutPlus body
  let digits := bare.takeWhile Char.isDigit
  let suffix := bare.drop digits.length
  match Raw.nat? digits, suffixFactor? suffix with
  | some number, some factor =>
      if number * factor ≤ greatestCount then .ok (number * factor) else .error .tooLarge
  | none, some factor =>
      if suffix.isEmpty || bare.length < body.length then .error .invalid else .ok factor
  | _, none => .error .invalid

def plainCount? (text : Raw) : Except CountFault Nat :=
  match Raw.nat? (withoutPlus (text.dropWhile Raw.isSpace)) with
  | some number => if number ≤ greatestCount then .ok number else .error .tooLarge
  | none => .error .invalid

def CountFault.suffix : CountFault → Raw
  | .invalid => []
  | .tooLarge => ": Value too large for defined data type"

end FixtureRunner.Tool
