/-
The tool that evaluates an expression given as one word per operand and operator.
-/

import FixtureRunner.Search.Match
import FixtureRunner.Tool.Arguments

namespace FixtureRunner.Tool

open Shell (Eval)

namespace Calculation

inductive Fault where
  | missingArgument (previous : Raw)
  | unexpected (word : Raw)
  | unclosed (previous : Raw)
  | unclosedBefore (word : Raw)
  | strayClosing
  | notInteger
  | divisionByZero
  | badPattern (fault : Search.Fault)

def Fault.message : Fault → Raw
  | .missingArgument previous => "syntax error: missing argument after " ++ quoted previous
  | .unexpected word => "syntax error: unexpected argument " ++ quoted word
  | .unclosed previous => "syntax error: expecting ')' after " ++ quoted previous
  | .unclosedBefore word => "syntax error: expecting ')' instead of " ++ quoted word
  | .strayClosing => "syntax error: unexpected ')'"
  | .notInteger => "non-integer argument"
  | .divisionByZero => "division by zero"
  | .badPattern fault => fault.message

/-! ### Values -/

def integer? : Raw → Option Int
  | '-' :: digits => (Raw.nat? digits).map fun number => -(number : Int)
  | digits => (Raw.nat? digits).map fun number => (number : Int)

def isNothing (value : Raw) : Bool :=
  let digits :=
    match value with
    | '-' :: rest => rest
    | _ => value
  value.isEmpty || (!digits.isEmpty && digits.all (· = '0'))

def order (left right : Raw) : Ordering :=
  match integer? left, integer? right with
  | some first, some second => compare first second
  | _, _ => if left = right then .eq else if left < right then .lt else .gt

def comparison? (word : Raw) : Option (Ordering → Bool) :=
  match String.ofList word with
  | "<" => some (· = .lt)
  | "<=" => some (· ≠ .gt)
  | "=" | "==" => some (· = .eq)
  | "!=" => some (· ≠ .eq)
  | ">=" => some (· ≠ .lt)
  | ">" => some (· = .gt)
  | _ => none

def arithmetic (operator left right : Raw) : Except Fault Raw :=
  match integer? left, integer? right with
  | some first, some second =>
      match operator with
      | ['+'] => .ok (Raw.ofInt (first + second))
      | ['-'] => .ok (Raw.ofInt (first - second))
      | ['*'] => .ok (Raw.ofInt (first * second))
      | _ =>
          if second = 0 then .error .divisionByZero
          else if operator = ['/'] then .ok (Raw.ofInt (first.tdiv second))
          else .ok (Raw.ofInt (first.tmod second))
  | _, _ => .error .notInteger

def matched (text pattern : Raw) : Except Fault Raw :=
  match Search.read false pattern with
  | .error fault => .error (.badPattern fault)
  | .ok compiled =>
      let field : Search.Field := { text := text.toArray }
      let hasReferences := Search.refers Search.nesting compiled.body
      match Search.matchAt field compiled hasReferences true 0 with
      | none => .ok (if 0 < compiled.groups then [] else ['0'])
      | some found =>
          if 0 < compiled.groups then
            match found.groups.lookup 1 with
            | some (start, stop) => .ok ((text.drop start).take (stop - start))
            | none => .ok []
          else
            .ok (Raw.ofNat found.stop)

def part (text start length : Raw) : Raw :=
  match integer? start, integer? length with
  | some first, some count =>
      if first ≤ 0 || count ≤ 0 then [] else (text.drop (first.toNat - 1)).take count.toNat
  | _, _ => []

/-! ### Expressions -/

structure Reading where
  previous : Raw
  rest : List Raw

abbrev Reader := StateT Reading (Except Fault)

def next? : Reader (Option Raw) :=
  return (← get).rest.head?

def take : Reader Unit :=
  modify fun reading =>
    { previous := reading.rest.headD reading.previous, rest := reading.rest.drop 1 }

def word : Reader Raw := do
  match ← next? with
  | some found => do
      take
      return found
  | none => throw (.missingArgument (← get).previous)

def operators : List (List String) :=
  [["|"], ["&"], ["<", "<=", "=", "==", "!=", ">=", ">"], ["+", "-"], ["*", "/", "%"], [":"]]

def operandLevel : Nat := operators.length

def apply (operator left right : Raw) : Except Fault Raw :=
  match operator with
  | ['|'] => .ok (if !isNothing left then left else if isNothing right then ['0'] else right)
  | ['&'] => .ok (if isNothing left || isNothing right then ['0'] else left)
  | [':'] => matched left right
  | _ =>
      match comparison? operator with
      | some holds => .ok (if holds (order left right) then ['1'] else ['0'])
      | none => arithmetic operator left right

def needsRight (operator left : Raw) : Bool :=
  match operator with
  | ['|'] => isNothing left
  | ['&'] => !isNothing left
  | _ => true

mutual

/-- An expression of a level; `counts` tells whether its value matters, and `room` bounds the
steps. -/
def expression (counts : Bool) (level : Nat) : Nat → Reader Raw
  | 0 => throw .strayClosing
  | room + 1 =>
      if level < operandLevel then do
        let first ← expression counts (level + 1) room
        chain counts level first room
      else
        operand counts room

def chain (counts : Bool) (level : Nat) (left : Raw) : Nat → Reader Raw
  | 0 => return left
  | room + 1 => do
      match ← next? with
      | none => return left
      | some operator =>
          if (operators.getD level []).contains (String.ofList operator) then do
            take
            let matters := counts && needsRight operator left
            let right ← expression matters (level + 1) room
            let value ← if counts then (apply operator left right : Except Fault Raw) else pure left
            chain counts level value room
          else
            return left

def operand (counts : Bool) : Nat → Reader Raw
  | 0 => throw .strayClosing
  | room + 1 => do
      let first ← word
      match String.ofList first with
      | "+" => word
      | "length" => return Raw.ofNat (← operand counts room).length
      | "match" => do
          let text ← operand counts room
          let pattern ← operand counts room
          if counts then (matched text pattern : Except Fault Raw) else return text
      | "index" => do
          let text ← operand counts room
          let chars ← operand counts room
          return Raw.ofNat (((text.findIdx? chars.contains).map (· + 1)).getD 0)
      | "substr" => do
          let text ← operand counts room
          let start ← operand counts room
          let length ← operand counts room
          return part text start length
      | "(" => do
          let value ← expression counts 0 room
          match ← next? with
          | some [')'] => do
              take
              return value
          | some other => throw (.unclosedBefore other)
          | none => throw (.unclosed (← get).previous)
      | ")" => throw .strayClosing
      | _ => return first

end

def value (words : List Raw) : Except Fault Raw := do
  let room := (words.length + 1) * (operandLevel + 2)
  let (found, reading) ← (expression true 0 room).run { previous := [], rest := words }
  match reading.rest with
  | [] => return found
  | extra :: _ => throw (.unexpected extra)

end Calculation

def calculationTool : Program := fun words => do
  let given :=
    match words with
    | ['-', '-'] :: rest => rest
    | _ => words
  if given.isEmpty then
    misuse "missing operand" 2
  else
    match Calculation.value given with
    | .error fault => fail fault.message 2
    | .ok found => output (found ++ ['\n']) (if Calculation.isNothing found then 1 else 0)

end FixtureRunner.Tool
