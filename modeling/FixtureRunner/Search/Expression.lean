/-
Expressions that search tools look for: basic and extended ones as data, and how they
are read.
-/

import FixtureRunner.Text.Bracketed

namespace FixtureRunner.Search

open Bracketed (Member)

inductive Expression where
  | char (char : Char)
  | any
  | set (negated : Bool) (members : List Member)
  | lineStart
  | lineStop
  | textStart
  | textStop
  | wordStart
  | wordStop
  | wordEdge
  | noWordEdge
  | group (number : Nat) (body : Expression)
  | reference (number : Nat)
  | chain (parts : List Expression)
  | choice (parts : List Expression)
  | repeated (body : Expression) (least : Nat) (most : Option Nat)

def isWordChar (char : Char) : Bool :=
  char.isAlphanum || char = '_'

inductive Fault where
  | unmatchedBracket
  | invalid
  | invalidClass
  | misplacedClass
  | invalidCollation
  | invalidRange
  | unmatchedOpening
  | unmatchedClosing
  | unmatchedBrace
  | invalidBrace
  | invalidPreceding
  | tooBig
  | trailingBackslash
  | invalidReference
deriving DecidableEq

def Fault.message : Fault → Raw
  | .unmatchedBracket => "Unmatched [, [^, [:, [., or [="
  | .invalid => "Invalid regular expression"
  | .invalidClass => "Invalid character class name"
  | .misplacedClass => "character class syntax is [[:space:]], not [:space:]"
  | .invalidCollation => "Invalid collation character"
  | .invalidRange => "Invalid range end"
  | .unmatchedOpening => "Unmatched ( or \\("
  | .unmatchedClosing => "Unmatched ) or \\)"
  | .unmatchedBrace => "Unmatched \\\x7b"
  | .invalidBrace => "Invalid content of \\\x7b\\\x7d"
  | .invalidPreceding => "Invalid preceding regular expression"
  | .tooBig => "Regular expression too big"
  | .trailingBackslash => "Trailing backslash"
  | .invalidReference => "Invalid back reference"

/-! ### Reading -/

structure Reading where
  rest : Raw
  groups : Nat := 0
  closed : List Nat := []
  warnings : List String := []
  isStrict : Bool := false

abbrev Reader := StateT Reading (Except Fault)

namespace Reader

def peek : Reader Raw :=
  return (← get).rest

def skip (count : Nat) : Reader Unit :=
  modify fun reading => { reading with rest := reading.rest.drop count }

def accept (text : String) : Reader Bool := do
  if text.toList.isPrefixOf (← peek) then
    skip text.length
    return true
  else
    return false

def untilMark (mark : Char) : Raw → Raw → Option (Raw × Raw)
  | char :: ']' :: rest, found =>
      if char = mark then some (found.reverse, rest) else untilMark mark (']' :: rest) (char :: found)
  | char :: rest, found => untilMark mark rest (char :: found)
  | [], _ => none

def element : Reader (Except String Char) := do
  match ← peek with
  | '[' :: ':' :: rest =>
      match untilMark ':' rest [] with
      | none => throw .unmatchedBracket
      | some (name, after) =>
          let text := String.ofList name
          if Bracketed.classNames.contains text then do
            modify fun reading => { reading with rest := after }
            return .error text
          else
            throw .invalidClass
  | '[' :: mark :: rest =>
      if mark = '.' || mark = '=' then
        match untilMark mark rest [] with
        | none => throw .unmatchedBracket
        | some ([char], after) => do
            modify fun reading => { reading with rest := after }
            return .ok char
        | some _ => throw .invalidCollation
      else do
        skip 1
        return .ok '['
  | char :: _ => do
      skip 1
      return .ok char
  | [] => throw .unmatchedBracket

def members : Nat → Bool → List Member → Reader (List Member)
  | 0, _, found => return found
  | room + 1, isFirst, found => do
      match ← peek with
      | [] => throw .unmatchedBracket
      | ']' :: _ =>
          if isFirst then single room found
          else do
            skip 1
            return found
      | _ => single room found
where
  single (room : Nat) (found : List Member) : Reader (List Member) := do
    match ← element with
    | .error name => members room false (.named name :: found)
    | .ok first => do
        match ← peek with
        | '-' :: last :: _ =>
            if last = ']' then
              members room false (.span first first :: found)
            else do
              skip 1
              match ← element with
              | .error _ => throw .invalidRange
              | .ok final =>
                  if final < first then throw .invalidRange
                  else members room false (.span first final :: found)
        | _ => members room false (.span first first :: found)

def bracket : Reader Expression := do
  let start ← peek
  if start.isEmpty then throw .invalid
  let negated ← accept "^"
  if (← peek).isEmpty then throw .invalid
  match start with
  | ':' :: rest =>
      match rest.takeWhile (· ≠ ']') with
      | inside =>
          if 1 < rest.length && inside.getLast? = some ':' && inside.length < rest.length then
            throw .misplacedClass
  | _ => pure ()
  let found ← members (start.length + 1) true []
  return .set negated found.reverse

def bounds? (extended : Bool) (text : Raw) : Option (Nat × Option Nat × Raw) :=
  let low := text.takeWhile Char.isDigit
  let after := text.drop low.length
  let (high?, rest) : Option Raw × Raw :=
    match after with
    | ',' :: others =>
        let digits := others.takeWhile Char.isDigit
        (some digits, others.drop digits.length)
    | _ => (none, after)
  let closing : Raw := if extended then ['\x7d'] else ['\\', '\x7d']
  if !closing.isPrefixOf rest || (low.isEmpty && high?.isNone) then
    none
  else
    let least := (Raw.nat? low).getD 0
    let most : Option Nat :=
      match high? with
      | none => some least
      | some digits => Raw.nat? digits
    some (least, most, rest.drop closing.length)

def greatestBound : Nat := 32767

inductive Operator where
  | star
  | plus
  | optional
  | brace
  | none

def operatorAt (extended : Bool) (text : Raw) : Operator × Nat :=
  match extended, text with
  | _, '*' :: _ => (.star, 1)
  | true, '+' :: _ => (.plus, 1)
  | true, '?' :: _ => (.optional, 1)
  | true, '\x7b' :: _ => (.brace, 1)
  | false, '\\' :: '+' :: _ => (.plus, 2)
  | false, '\\' :: '?' :: _ => (.optional, 2)
  | false, '\\' :: '\x7b' :: _ => (.brace, 2)
  | _, _ => (.none, 0)

def requireSingle (extended : Bool) : Reader Unit := do
  let reading ← get
  if reading.isStrict then
    match operatorAt extended reading.rest with
    | (.star, _) | (.brace, _) => throw .invalidPreceding
    | _ => return ()

def repetitions (extended : Bool) : Nat → Expression → Reader Expression
  | 0, body => return body
  | room + 1, body => do
      let text ← peek
      match operatorAt extended text with
      | (.none, _) => return body
      | (.star, count) => do
          skip count
          requireSingle extended
          repetitions extended room (.repeated body 0 none)
      | (.plus, count) => do
          skip count
          requireSingle extended
          repetitions extended room (.repeated body 1 none)
      | (.optional, count) => do
          skip count
          requireSingle extended
          repetitions extended room (.repeated body 0 (some 1))
      | (.brace, count) => do
          match bounds? extended (text.drop count) with
          | some (least, most, rest) => do
              if most.any (· < least) then throw .invalidBrace
              if greatestBound < max least (most.getD 0) then throw .tooBig
              modify fun reading => { reading with rest }
              requireSingle extended
              repetitions extended room (.repeated body least most)
          | none =>
              if extended then
                return body
              else if (text.drop count).any (· = '\x7d') then
                throw .invalidBrace
              else
                throw .unmatchedBrace

def endsHere (extended : Bool) (text : Raw) : Bool :=
  match extended, text with
  | _, [] => true
  | true, '|' :: _ => true
  | true, ')' :: _ => true
  | false, '\\' :: '|' :: _ => true
  | false, '\\' :: ')' :: _ => true
  | _, '\n' :: _ => false
  | _, _ => false

def named? (char : Char) : Option Expression :=
  match char with
  | 'w' => some (.set false [.named "alnum", .span '_' '_'])
  | 'W' => some (.set true [.named "alnum", .span '_' '_'])
  | 's' => some (.set false [.named "space"])
  | 'S' => some (.set true [.named "space"])
  | '<' => some .wordStart
  | '>' => some .wordStop
  | 'b' => some .wordEdge
  | 'B' => some .noWordEdge
  | '`' => some .textStart
  | '\'' => some .textStop
  | _ => none

def warn (text : String) : Reader Unit :=
  modify fun reading => { reading with warnings := text :: reading.warnings }

/-- Alternatives up to the end of a group or of the whole; `isInside` a group, and `room`
bounds the length. -/
def alternatives (extended : Bool) : Nat → Bool → Reader Expression
  | 0, _ => return .chain []
  | room + 1, isInside => do
      let first ← concatenation room isInside true []
      if ← accept (if extended then "|" else "\\|") then do
        let others ← alternatives extended room isInside
        return match others with
          | .choice parts => .choice (first :: parts)
          | other => .choice [first, other]
      else
        return first
where
  concatenation : Nat → Bool → Bool → List Expression → Reader Expression
  | 0, _, _, found => return .chain found.reverse
  | room + 1, isInside, isStart, found => do
      let text ← peek
      if endsHere extended text && (isInside || !closes text) then
        return .chain found.reverse
      else do
        let part? ← single room isInside isStart
        match part? with
        | none => concatenation room isInside isStart found
        | some part =>
            match part with
            | .lineStart =>
                if extended then
                  concatenation room isInside false
                    ((← repetitions extended room part) :: found)
                else
                  concatenation room isInside isStart (part :: found)
            | _ =>
                concatenation room isInside false ((← repetitions extended room part) :: found)
  closes (text : Raw) : Bool :=
    if extended then text.head? = some ')' else "\\)".toList.isPrefixOf text
  /-- One expression without its repetitions; nothing for a mark that has no meaning here. -/
  single (room : Nat) (isInside isStart : Bool) : Reader (Option Expression) := do
    let text ← peek
    match text with
    | [] => return some (.chain [])
    | '[' :: _ => do
        skip 1
        return some (← bracket)
    | '.' :: _ => do
        skip 1
        return some .any
    | '*' :: _ => do
        skip 1
        if extended && isStart then do
          warn "* at start of expression"
          return none
        else
          return some (.char '*')
    | '^' :: _ => do
        skip 1
        return some (if extended || isStart then .lineStart else .char '^')
    | '$' :: rest => do
        skip 1
        return some (if extended || endsHere false rest then .lineStop else .char '$')
    | '\\' :: char :: _ => do
        skip 2
        if char.isDigit && char ≠ '0' then do
          let number := char.toNat - '0'.toNat
          if (← get).closed.contains number then return some (.reference number)
          else throw .invalidReference
        else
          match named? char with
          | some expression => return some expression
          | none =>
              if !extended && char = '(' then return some (← group room)
              else if !extended && char = ')' then throw .unmatchedClosing
              else if !extended && char = '\x7b' then
                if isStart then throw .invalidPreceding else return some (.char char)
              else return some (.char char)
    | ['\\'] => throw .trailingBackslash
    | char :: rest => do
        skip 1
        if extended then
          match char with
          | '(' => return some (← group room)
          | ')' => if isInside then throw .unmatchedClosing else return some (.char ')')
          | '+' | '?' =>
              if isStart then do
                warn (String.ofList [char] ++ " at start of expression")
                return none
              else
                return some (.char char)
          | '\x7b' =>
              match bounds? true rest with
              | some (_, _, after) =>
                  if isStart then do
                    warn "\x7b...\x7d at start of expression"
                    modify fun reading => { reading with rest := after }
                    return none
                  else
                    return some (.char char)
              | none => return some (.char char)
          | _ => return some (.char char)
        else
          return some (.char char)
  group (room : Nat) : Reader Expression := do
    let number := (← get).groups + 1
    modify fun reading => { reading with groups := number }
    let body ← alternatives extended room true
    if ← accept (if extended then ")" else "\\)") then do
      modify fun reading => { reading with closed := number :: reading.closed }
      return .group number body
    else
      throw .unmatchedOpening

end Reader

structure Compiled where
  body : Expression
  groups : Nat
  warnings : List String

def read (extended : Bool) (text : Raw) (isStrict : Bool := false) : Except Fault Compiled := do
  let (body, after) ←
    (Reader.alternatives extended (8 * text.length + 16) false).run { rest := text, isStrict }
  if after.rest.isEmpty then
    return { body, groups := after.groups, warnings := after.warnings.reverse }
  else
    throw .unmatchedClosing

def literal (text : Raw) : Compiled :=
  { body := .chain (text.map .char), groups := 0, warnings := [] }

end FixtureRunner.Search
