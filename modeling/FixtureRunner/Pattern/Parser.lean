/-
From the text of a pattern to its syntax tree.

Reading goes from left to right and stops at the first fault; only when the whole
text has been read is the depth of nesting looked at.
-/

import FixtureRunner.Pattern.Bracket
import FixtureRunner.Text.Property

namespace FixtureRunner.Pattern

inductive GroupOpening where
  | flags (node : Node) (items : List FlagItem)
  | group (opening : Span) (items : List FlagItem)

namespace Reader

/-! ### Groups -/

def isNameChar (first : Bool) (char : Char) : Bool :=
  char = '_' || Text.Property.isAlphabetic char ||
    (!first && (char = '.' || char = '[' || char = ']' || Text.Property.isNumeric char))

def groupNameFrom : Nat → Bool → Reader Text
  | 0, _ => return []
  | room + 1, first => do
      match ← current with
      | none => return []
      | some '>' => return []
      | some char =>
          if isNameChar first char then
            let _ ← bump
            return char :: (← groupNameFrom room false)
          else
            fail (← charSpan) .groupNameInvalid

def groupName : Reader Unit := do
  let start ← here
  let name ← groupNameFrom (← get).rest.length true
  let span ← spanFrom start
  if ← atEnd then
    fail (← point) .groupNameUnexpectedEnd
  else
    let _ ← bump
    if name.isEmpty then
      fail ⟨start, start⟩ .groupNameEmpty
    else
      match (← get).names.find? (·.1 = name) with
      | some (_, earlier) => throw { span, cause := .groupNameDuplicate, earlier := some earlier }
      | none => modify fun cursor => { cursor with names := cursor.names ++ [(name, span)] }

def flagOfChar? : Char → Option Flag
  | 'i' => some .caseInsensitive
  | 'm' => some .multiLine
  | 's' => some .dotMatchesNewline
  | 'U' => some .swapGreed
  | 'u' => some .unicode
  | 'R' => some .carriageReturn
  | 'x' => some .verbose
  | _ => none

/-- Reads flags up to `:` or `)`; `items` are those read so far, `dangling` a minus sign
that no flag follows yet. -/
def flagItems :
    Nat → List (FlagItem × Span) → Option Span → Reader (List FlagItem)
  | 0, _, _ => return []
  | room + 1, items, dangling => do
      match ← current with
      | none => fail (← point) .flagUnexpectedEnd
      | some char =>
          if char = ':' ∨ char = ')' then
            match dangling with
            | some span => fail span .flagDanglingNegation
            | none => return items.map (·.1)
          else
            let span ← charSpan
            let (item, repeated) ←
              if char = '-' then
                pure (FlagItem.negation, Cause.flagRepeatedNegation)
              else
                match flagOfChar? char with
                | some flag => pure (FlagItem.flag flag, Cause.flagDuplicate)
                | none => fail span .flagUnrecognized
            match items.find? (·.1 = item) with
            | some (_, earlier) => throw { span, cause := repeated, earlier := some earlier }
            | none =>
                let _ ← bump
                flagItems room (items ++ [(item, span)])
                  (if item = .negation then some span else none)

def groupOpening : Reader GroupOpening := do
  let opening ← charSpan
  let _ ← bump
  skipBlanks
  let inner ← point
  if ← bumpIfAny ["?=", "?!", "?<=", "?<!"] then
    fail (← spanFrom opening.start) .lookAround
  else if ← bumpIfAny ["?P<", "?<"] then
    groupName
    return .group opening []
  else if ← bumpIf "?" then
    if ← atEnd then
      fail opening .groupUnclosed
    else
      let items ← flagItems ((← get).rest.length + 1) [] none
      let closing ← current
      let _ ← bump
      if closing = some ')' then
        if items.isEmpty then
          fail inner .repetitionMissing
        else
          return .flags (.flags (← spanFrom opening.start) items) items
      else
        return .group opening items
  else
    return .group opening []

/-! ### Repetitions -/

def repeated (parts : List Node) : Reader (Node × List Node) := do
  match parts with
  | [] => fail (← point) .repetitionMissing
  | .empty _ :: _ => fail (← point) .repetitionMissing
  | .flags _ _ :: _ => fail (← point) .repetitionMissing
  | part :: earlier => return (part, earlier)

/-- A question mark after a repetition makes it lazy, which changes no answer here. -/
def lazyMark (present : Bool) : Reader Unit := do
  if present && (← current) = some '?' then
    let _ ← bump

def simpleRepetition (parts : List Node) (least : Nat) (most : Option Nat) :
    Reader (List Node) := do
  let (part, earlier) ← repeated parts
  lazyMark (← bump)
  return .repetition (← spanFrom part.span.start) least most part :: earlier

def countedRepetition (parts : List Node) : Reader (List Node) := do
  let start ← here
  let (part, earlier) ← repeated parts
  let unclosed {α : Type} : Reader α := do
    fail (← spanFrom start) .repetitionCountUnclosed
  if !(← bumpAndSkip) then
    unclosed
  else
    let first ← decimal
    if ← atEnd then
      unclosed
    else
      let (least, most) ←
        if (← current) = some ',' then
          if !(← bumpAndSkip) then
            unclosed
          else if (← current) ≠ some '}' then
            let least ← first
            let most ← (← decimal)
            pure (least, some most)
          else
            let least ← first
            pure (least, none)
        else
          let least ← first
          pure (least, some least)
      if (← current) ≠ some '}' then
        unclosed
      else
        lazyMark (← bumpAndSkip)
        if most.all (least ≤ ·) then
          return .repetition (← spanFrom part.span.start) least most part :: earlier
        else
          fail (← spanFrom start) .repetitionCountInvalid

/-! ### The whole pattern -/

def primitive : Reader Primitive := do
  let span ← charSpan
  match ← current with
  | some '\\' => escape
  | some '.' =>
      let _ ← bump
      return .dot span
  | some '^' =>
      let _ ← bump
      return .assertion span .startLine
  | some '$' =>
      let _ ← bump
      return .assertion span .endLine
  | char =>
      let _ ← bump
      return .literal { span, char := char.getD '\\' }

def concatenated (span : Span) : List Node → Node
  | [] => .empty span
  | [part] => part
  | parts => .concatenation span parts

def setVerbose (items : List FlagItem) : Reader Unit :=
  match FlagItem.state .verbose items with
  | some verbose => modify fun cursor => { cursor with verbose }
  | none => return

mutual
/-- Reads branches up to a closing parenthesis or the end.  The numbers bound the
characters read. -/
def alternation : Nat → Reader Node
  | 0 => return .empty (← point)
  | room + 1 => do
      let start ← here
      let first ← branch room
      let others ← moreBranches room
      if others.isEmpty then
        return first
      else
        return .alternation (← spanFrom start) (first :: others)

def moreBranches : Nat → Reader (List Node)
  | 0 => return []
  | room + 1 => do
      if (← current) = some '|' then
        let _ ← bump
        let next ← branch room
        return next :: (← moreBranches room)
      else
        return []

def branch : Nat → Reader Node
  | 0 => return .empty (← point)
  | room + 1 => do
      let start ← here
      let parts ← elements room []
      return concatenated (← spanFrom start) parts.reverse

def elements : Nat → List Node → Reader (List Node)
  | 0, parts => return parts
  | room + 1, parts => do
      skipBlanks
      match ← current with
      | none => return parts
      | some ')' => return parts
      | some '|' => return parts
      | some '(' =>
          match ← groupOpening with
          | .flags node items =>
              setVerbose items
              elements room (node :: parts)
          | .group opening items =>
              let outer := (← get).verbose
              setVerbose items
              let body ← alternation room
              if (← current) = some ')' then
                modify fun cursor => { cursor with verbose := outer }
                let _ ← bump
                elements room (.group (← spanFrom opening.start) items body :: parts)
              else
                fail opening .groupUnclosed
      | some '[' =>
          let (span, negated, body) ← bracketed room
          elements room (.bracketed span negated body :: parts)
      | some '?' => elements room (← simpleRepetition parts 0 (some 1))
      | some '*' => elements room (← simpleRepetition parts 0 none)
      | some '+' => elements room (← simpleRepetition parts 1 none)
      | some '{' => elements room (← countedRepetition parts)
      | _ => elements room ((← primitive).node :: parts)
end

def pattern : Reader Node := do
  let node ← alternation (4 * (← get).rest.length + 4)
  if (← current) = some ')' then
    fail (← charSpan) .groupUnopened
  else
    return node

end Reader

/-- Groups, classes, repetitions, branches and sequences may nest this deep. -/
def nestingLimit : Nat := 250

def parse (text : Text) : Except Fault Node := do
  let (node, _) ← Reader.pattern.run { rest := text }
  match node.tooDeep nestingLimit with
  | some span => throw { span, cause := .nestingTooDeep nestingLimit }
  | none => return node

end FixtureRunner.Pattern
