/-
Integer expressions: numbers and variables of 64 bits, the usual operators, and
assignments.
-/

import FixtureRunner.Text.Raw

namespace FixtureRunner.Shell.Arithmetic

inductive Fault where
  | operandExpected
  | endExpected
  | parenthesisExpected
  | colonExpected
  | divisionByZero
  | illegalNumber (text : Raw)
deriving DecidableEq

def Fault.message (expression : Raw) (fault : Fault) : Raw :=
  let about (reason : String) : Raw :=
    ("arithmetic expression: " ++ reason ++ ": \"").toList ++ expression ++ ['"']
  match fault with
  | .operandExpected => about "expecting primary"
  | .endExpected => about "expecting EOF"
  | .parenthesisExpected => about "expecting ')'"
  | .colonExpected => about "expecting ':'"
  | .divisionByZero => about "division by zero"
  | .illegalNumber text => "Illegal number: " ++ text

/-! ### Numbers -/

def greatest : Int := Int.pow 2 63 - 1

def least : Int := -Int.pow 2 63

/-- Values wrap around at 64 bits. -/
def wrap (value : Int) : Int :=
  Int.bmod value (Nat.pow 2 64)

def number? (text : Raw) : Option Int :=
  let start := text.dropWhile Raw.isSpace
  let (isNegative, body) :=
    match start with
    | '-' :: rest => (true, rest)
    | '+' :: rest => (false, rest)
    | _ => (false, start)
  let (magnitude, rest) := Raw.wholeAt body
  let value : Int := if isNegative then -(magnitude : Int) else magnitude
  let hasDigits := (body.head?.map Char.isDigit).getD false
  let after := if hasDigits then rest else text
  if after.all Raw.isSpace && least ≤ value && value ≤ greatest then some value else none

/-! ### Tokens -/

inductive Token where
  | number (value : Int)
  | name (name : Raw)
  | sign (text : String)
  | junk
deriving DecidableEq

def signs : List String :=
  ["<<=", ">>=", "<<", ">>", "<=", ">=", "==", "!=", "&&", "||", "+=", "-=", "*=", "/=", "%=", "&=",
    "|=", "^=", "+", "-", "*", "/", "%", "(", ")", "<", ">", "!", "~", "&", "|", "^", "?", ":", "="]

def tokensFrom : Nat → Raw → List Token
  | 0, _ => []
  | _ + 1, [] => []
  | room + 1, char :: rest =>
      if char = ' ' || char = '\t' || char = '\n' then
        tokensFrom room rest
      else if char.isDigit then
        let (value, after) := Raw.wholeAt (char :: rest)
        .number (min value greatest) :: tokensFrom room after
      else if char.isAlpha || char = '_' then
        let name := (char :: rest).takeWhile fun next => next.isAlphanum || next = '_'
        .name name :: tokensFrom room ((char :: rest).drop name.length)
      else
        match signs.find? fun sign => sign.toList.isPrefixOf (char :: rest) with
        | some sign => .sign sign :: tokensFrom room ((char :: rest).drop sign.length)
        | none => [.junk]

/-! ### Operators -/

/-- Binary operators that bind at least this strongly have a number below the last one. -/
def weakest : Nat := 8

def weakness? : Token → Option (String × Nat)
  | .sign text =>
      (match text with
        | "*" | "/" | "%" => some 0
        | "+" | "-" => some 1
        | "<<" | ">>" => some 2
        | "<" | "<=" | ">" | ">=" => some 3
        | "==" | "!=" => some 4
        | "&" => some 5
        | "^" => some 6
        | "|" => some 7
        | _ => none).map (text, ·)
  | _ => none

def truth (holds : Bool) : Int :=
  if holds then 1 else 0

def bitwise (operation : Nat → Nat → Nat) (left right : Int) : Int :=
  wrap (operation (left % Int.pow 2 64).toNat (right % Int.pow 2 64).toNat : Nat)

def apply (sign : String) (left right : Int) : Except Fault Int :=
  match sign with
  | "+" => .ok (wrap (left + right))
  | "-" => .ok (wrap (left - right))
  | "*" => .ok (wrap (left * right))
  | "/" => if right = 0 then .error .divisionByZero else .ok (wrap (Int.tdiv left right))
  | "%" => if right = 0 then .error .divisionByZero else .ok (wrap (Int.tmod left right))
  | "==" => .ok (truth (left = right))
  | "!=" => .ok (truth (left ≠ right))
  | "<" => .ok (truth (left < right))
  | "<=" => .ok (truth (left ≤ right))
  | ">" => .ok (truth (right < left))
  | ">=" => .ok (truth (right ≤ left))
  | "&" => .ok (bitwise Nat.land left right)
  | "|" => .ok (bitwise Nat.lor left right)
  | "^" => .ok (bitwise Nat.xor left right)
  | "<<" => .ok (wrap (left * Int.pow 2 (right % 64).toNat))
  | ">>" => .ok (left / Int.pow 2 (right % 64).toNat)
  | _ => .error .operandExpected

/-! ### Evaluation -/

structure Calculation where
  tokens : List Token
  assigned : List (Raw × Int) := []

abbrev Calculator := StateT Calculation (Except Fault)

inductive Level where
  | assignment
  | conditional
  | disjunction
  | conjunction
  | binary
  /-- What follows a left operand and its operator, up to an operator as weak as the limit. -/
  | rest (left : Int) (sign : String) (strength limit : Nat)
  | primary

def peek : Calculator (Option Token) :=
  return (← get).tokens.head?

def take : Calculator (Option Token) := do
  let token ← peek
  modify fun held => { held with tokens := held.tokens.drop 1 }
  return token

def accept (sign : String) : Calculator Bool := do
  if (← peek) = some (.sign sign) then
    let _ ← take
    return true
  else
    return false

def assigning? : Token → Option (Option String)
  | .sign "=" => some none
  | .sign text =>
      if ["+=", "-=", "*=", "/=", "%=", "&=", "|=", "^=", "<<=", ">>="].contains text then
        some (some (String.ofList text.toList.dropLast))
      else
        none
  | _ => none

def target? : Calculator (Option (Raw × Option String)) := do
  match (← get).tokens with
  | .name name :: sign :: rest =>
      match assigning? sign with
      | some operator => do
          modify fun held => { held with tokens := rest }
          return some (name, operator)
      | none => return none
  | _ => return none

def valueOf (values : Raw → Option Raw) (name : Raw) : Calculator Int := do
  match (← get).assigned.lookup name, values name with
  | some value, _ => return value
  | none, none => return 0
  | none, some text =>
      if text.isEmpty then
        return 0
      else
        match number? text with
        | some value => return value
        | none => throw (.illegalNumber text)

/-- Evaluates what stands at the front; what is `skipped` has no effect.  `room` bounds the
depth. -/
def evaluate (values : Raw → Option Raw) : Nat → Level → Bool → Calculator Int
  | 0, _, _ => throw .operandExpected
  | room + 1, level, skipped => do
      let go := evaluate values room
      match level with
      | .assignment =>
          match ← target? with
          | none => go .conditional skipped
          | some (name, operator) => do
              let right ← go .assignment skipped
              if skipped then
                return right
              else do
                let value ←
                  match operator with
                  | none => pure right
                  | some sign => do apply sign (← valueOf values name) right
                modify fun held => { held with assigned := (name, value) :: held.assigned }
                return value
      | .conditional => do
          let condition ← go .disjunction skipped
          if ← accept "?" then do
            let whenTrue ← go .assignment (skipped || condition = 0)
            if !(← accept ":") then throw .colonExpected
            let whenFalse ← go .conditional (skipped || condition ≠ 0)
            return if condition ≠ 0 then whenTrue else whenFalse
          else
            return condition
      | .disjunction => do
          let left ← go .conjunction skipped
          if ← accept "||" then do
            let right ← go .disjunction (skipped || left ≠ 0)
            return truth (left ≠ 0 || right ≠ 0)
          else
            return left
      | .conjunction => do
          let left ← go .binary skipped
          if ← accept "&&" then do
            let right ← go .conjunction (skipped || left = 0)
            return truth (left ≠ 0 && right ≠ 0)
          else
            return left
      | .binary => do
          let left ← go .primary skipped
          match (← peek).bind weakness? with
          | none => return left
          | some (sign, strength) => do
              let _ ← take
              go (.rest left sign strength weakest) skipped
      | .rest left sign strength limit => do
          let first ← go .primary skipped
          let right ←
            match (← peek).bind weakness? with
            | none => pure first
            | some (next, nextStrength) =>
                if nextStrength < strength then do
                  let _ ← take
                  go (.rest first next nextStrength strength) skipped
                else
                  pure first
          let value ← if skipped then pure right else apply sign left right
          match (← peek).bind weakness? with
          | none => return value
          | some (next, nextStrength) =>
              if limit ≤ nextStrength then
                return value
              else do
                let _ ← take
                go (.rest value next nextStrength limit) skipped
      | .primary => do
          match ← take with
          | some (.number value) => return value
          | some (.name name) => if skipped then return 0 else valueOf values name
          | some (.sign "(") => do
              let value ← go .assignment skipped
              if !(← accept ")") then throw .parenthesisExpected
              return value
          | some (.sign "+") => go .primary skipped
          | some (.sign "-") => return wrap (-(← go .primary skipped))
          | some (.sign "!") => return truth ((← go .primary skipped) = 0)
          | some (.sign "~") => return -(← go .primary skipped) - 1
          | _ => throw .operandExpected

def value (values : Raw → Option Raw) (text : Raw) : Except Fault (Int × List (Raw × Int)) := do
  let tokens := tokensFrom (text.length + 1) text
  let (result, after) ← (evaluate values (8 * tokens.length + 16) .assignment false).run { tokens }
  if after.tokens.isEmpty then return (result, after.assigned.reverse) else throw .endExpected

end FixtureRunner.Shell.Arithmetic
