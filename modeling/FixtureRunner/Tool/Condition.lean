/-
Conditions on texts, numbers and files.
-/

import FixtureRunner.Tool.Message

namespace FixtureRunner.Tool

open Shell (Eval)

inductive ConditionFault where
  | badNumber (text : Raw)
  | unexpectedOperator (text : Raw)
  | operandExpected (operator : Raw)
  | closingExpected

def ConditionFault.message : ConditionFault → Raw
  | .badNumber text => "Illegal number: " ++ text
  | .unexpectedOperator [] => "unexpected operator"
  | .unexpectedOperator text => text ++ ": unexpected operator"
  | .operandExpected operator => operator ++ ": argument expected"
  | .closingExpected => "closing paren expected"

def ConditionFault.toolMessage : ConditionFault → Raw
  | .badNumber text => "invalid integer " ++ quoted text
  | .unexpectedOperator text => "extra argument " ++ quoted text
  | .operandExpected operator => "missing argument after " ++ quoted operator
  | .closingExpected => "')' expected"

def unaryOperators : List String :=
  ["-n", "-z", "-e", "-f", "-d", "-r", "-w", "-x", "-s", "-L", "-h", "-b", "-c", "-p", "-S", "-t",
    "-u", "-g", "-k", "-O", "-G"]

def binaryOperators : List String :=
  ["=", "!=", "<", ">", "-eq", "-ne", "-lt", "-le", "-gt", "-ge", "-nt", "-ot", "-ef"]

def isUnary (word : Raw) : Bool :=
  unaryOperators.any (·.toList = word)

def isBinary (word : Raw) : Bool :=
  binaryOperators.any (·.toList = word)

def isLink (disk : Disk) (path : Path) : Bool :=
  match disk.route .edit path with
  | .ok (.name folder name false) =>
      match disk.entryAt? (folder ++ [name]) with
      | some (.link _) => true
      | _ => false
  | _ => false

def unary (disk : Disk) (operator : Raw) (operand : Raw) : Bool :=
  let path := Eval.pathOf operand
  let found := (disk.find path).toOption
  let isDevice := (found.map fun entry => Eval.isDevice entry.1).getD false
  match String.ofList operator with
  | "-n" => !operand.isEmpty
  | "-z" => operand.isEmpty
  | "-f" => disk.isFile path && !isDevice
  | "-d" => disk.isFolder path
  | "-c" => isDevice
  | "-e" | "-r" | "-w" | "-O" | "-G" => found.isSome
  | "-x" =>
      match found with
      | some (_, .file _ executable) => executable
      | some _ => true
      | none => false
  | "-s" =>
      match found with
      | some (_, .file content _) => !content.isEmpty
      | some _ => true
      | none => false
  | "-L" | "-h" => isLink disk path
  | _ => false

def conditionNumber (text : Raw) : Except ConditionFault Int :=
  let trimmed := (text.dropWhile Raw.isSpace).reverse.dropWhile Raw.isSpace |>.reverse
  let (isNegative, digits) :=
    match trimmed with
    | '-' :: rest => (true, rest)
    | '+' :: rest => (false, rest)
    | _ => (false, trimmed)
  match Raw.nat? digits with
  | some value =>
      let signed : Int := if isNegative then -(value : Int) else value
      if -Int.pow 2 63 ≤ signed && signed < Int.pow 2 63 then .ok signed else .error (.badNumber text)
  | none => .error (.badNumber text)

def binary (disk : Disk) (left operator right : Raw) : Except ConditionFault Bool := do
  let numbers (test : Int → Int → Bool) : Except ConditionFault Bool := do
    let first ← conditionNumber left
    return test first (← conditionNumber right)
  match String.ofList operator with
  | "=" => return left = right
  | "!=" => return left ≠ right
  | "<" => return left < right
  | ">" => return right < left
  | "-eq" => numbers fun first second => first = second
  | "-ne" => numbers fun first second => first ≠ second
  | "-lt" => numbers fun first second => first < second
  | "-le" => numbers fun first second => first ≤ second
  | "-gt" => numbers fun first second => second < first
  | "-ge" => numbers fun first second => second ≤ first
  | "-ef" =>
      return match disk.find (Eval.pathOf left), disk.find (Eval.pathOf right) with
        | .ok (first, _), .ok (second, _) => decide (first = second)
        | _, _ => false
  | "-nt" =>
      return match disk.find (Eval.pathOf left), disk.find (Eval.pathOf right) with
        | .ok _, .error _ => true
        | _, _ => false
  | "-ot" =>
      return match disk.find (Eval.pathOf left), disk.find (Eval.pathOf right) with
        | .error _, .ok _ => true
        | _, _ => false
  | _ => return false

inductive ConditionToken where
  | nothing
  | operand
  | unary
  | binary
  | negation
  | conjunction
  | disjunction
  | opening
  | closing
deriving DecidableEq

/-- Whether a word that looks like a unary operator is an operand: nothing follows it, or a
binary operator with something behind it. -/
def isOperandHere : List Raw → Bool
  | [] => true
  | [_] => false
  | next :: _ => isBinary next

def tokenAt : List Raw → ConditionToken
  | [] => .nothing
  | word :: rest =>
      if isUnary word then if isOperandHere rest then .operand else .unary
      else if isBinary word then .binary
      else
        match word with
        | ['!'] => .negation
        | ['-', 'a'] => .conjunction
        | ['-', 'o'] => .disjunction
        | ['('] => if rest.isEmpty then .operand else .opening
        | [')'] => .closing
        | _ => .operand

inductive ConditionLevel where
  | disjunction
  | conjunction
  | negation
  | primary
deriving DecidableEq

/-- A condition at the front of the words, the first of which is the given token: its value,
and the words from the last one on that belongs to it.  `room` bounds the nesting. -/
def condition (disk : Disk) :
    Nat → ConditionLevel → ConditionToken → List Raw → Except ConditionFault (Bool × List Raw)
  | 0, _, _, words => .ok (false, words)
  | room + 1, .disjunction, token, words => do
      let (first, last) ← condition disk room .conjunction token words
      if tokenAt (last.drop 1) = .disjunction then do
        let rest := last.drop 2
        let (second, after) ← condition disk room .disjunction (tokenAt rest) rest
        return (first || second, after)
      else
        return (first, last)
  | room + 1, .conjunction, token, words => do
      let (first, last) ← condition disk room .negation token words
      if tokenAt (last.drop 1) = .conjunction then do
        let rest := last.drop 2
        let (second, after) ← condition disk room .conjunction (tokenAt rest) rest
        return (first && second, after)
      else
        return (first, last)
  | room + 1, .negation, token, words =>
      if token = .negation then do
        let next := tokenAt (words.drop 1)
        let rest := if next = .nothing then words else words.drop 1
        let (value, after) ← condition disk room .negation next rest
        return (!value, after)
      else
        condition disk room .primary token words
  | room + 1, .primary, token, words =>
      match token, words with
      | .nothing, _ => .ok (false, words)
      | _, [] => .ok (false, words)
      | .opening, _ :: rest =>
          if tokenAt rest = .closing then
            .ok (false, rest)
          else do
            let (value, after) ← condition disk room .disjunction (tokenAt rest) rest
            if tokenAt (after.drop 1) = .closing then return (value, after.drop 1)
            else throw .closingExpected
      | .unary, operator :: rest =>
          match rest with
          | [] => .error (.operandExpected operator)
          | operand :: _ => .ok (unary disk operator operand, rest)
      | _, left :: rest =>
          if tokenAt rest = .binary then
            match rest with
            | operator :: right :: after => do
                return (← binary disk left operator right, right :: after)
            | operator :: [] => .error (.operandExpected operator)
            | [] => .ok (false, words)
          else
            .ok (!left.isEmpty, words)

def wholeCondition (disk : Disk) (token : ConditionToken) (words : List Raw) :
    Except ConditionFault Bool := do
  let (value, last) ← condition disk (4 * words.length + 8) .disjunction token words
  match last with
  | word :: _ :: _ => throw (.unexpectedOperator word)
  | _ => return value

/-- The value of all words; few of them are read by their number.  `room` bounds the marks of
negation in front. -/
def holdsFrom (disk : Disk) : Nat → List Raw → Except ConditionFault Bool
  | _, [] => .ok false
  | 0, words => wholeCondition disk (tokenAt words) words
  | room + 1, words =>
      let isEnclosed := words.head? = some ['('] && words.getLast? = some [')']
      let inside := (words.drop 1).dropLast
      if words.length = 3 && isBinary (words.getD 1 []) then
        wholeCondition disk .operand words
      else if words.length = 3 || words.length = 4 then
        if isEnclosed then wholeCondition disk (tokenAt inside) inside
        else if words.head? = some ['!'] then do return !(← holdsFrom disk room (words.drop 1))
        else wholeCondition disk (tokenAt words) words
      else
        wholeCondition disk (tokenAt words) words

def holds (disk : Disk) (words : List Raw) : Except ConditionFault Bool :=
  holdsFrom disk 4 words

end FixtureRunner.Tool
