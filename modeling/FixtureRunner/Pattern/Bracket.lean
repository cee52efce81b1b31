/-
Classes between brackets: literals, ranges, escapes, nested classes, and the
operations `&&`, `--` and `~~`, which bind alike and to the left.
-/

import FixtureRunner.Pattern.Escape

namespace FixtureRunner.Pattern

structure Juxtaposed where
  span : Span
  items : List ClassNode := []

namespace Juxtaposed

def push (union : Juxtaposed) (item : ClassNode) : Juxtaposed :=
  let start := if union.items.isEmpty then item.span.start else union.span.start
  ⟨⟨start, item.span.stop⟩, item :: union.items⟩

def node (union : Juxtaposed) : ClassNode :=
  match union.items with
  | [] => .empty union.span
  | [item] => item
  | items => .union union.span items.reverse

end Juxtaposed

def PosixClass.ofName? : String → Option PosixClass
  | "alnum" => some .alnum
  | "alpha" => some .alpha
  | "ascii" => some .ascii
  | "blank" => some .blank
  | "cntrl" => some .cntrl
  | "digit" => some .digit
  | "graph" => some .graph
  | "lower" => some .lower
  | "print" => some .print
  | "punct" => some .punct
  | "space" => some .space
  | "upper" => some .upper
  | "word" => some .word
  | "xdigit" => some .xdigit
  | _ => none

structure OpenOperation where
  operator : ClassOperator
  left : ClassNode

def OpenOperation.close (pending : Option OpenOperation) (right : ClassNode) : ClassNode :=
  match pending with
  | none => right
  | some { operator, left } =>
      .operation ⟨left.span.start, right.span.stop⟩ operator left right

namespace Reader

def posixClass : Reader (Option ClassNode) := do
  let saved ← get
  let start := saved.position
  let giveUp : Reader (Option ClassNode) := do
    set saved
    return none
  if !(← bumpIf "[:") then
    giveUp
  else
    let negated ← bumpIf "^"
    let name ← takeWhile (· ≠ ':') Cursor.next
    if ← bumpIf ":]" then
      match PosixClass.ofName? (String.ofList name) with
      | some kind => return some (.posix (← spanFrom start) kind negated)
      | none => giveUp
    else
      giveUp

def leadingHyphens (start : Position) : Nat → Juxtaposed → Reader Juxtaposed
  | 0, union => return union
  | room + 1, union => do
      if (← current) = some '-' then
        let union := union.push (.literal { span := ← charSpan, char := '-' })
        if ← bumpAndSkip then
          leadingHyphens start room union
        else
          fail ⟨start, start⟩ .classUnclosed
      else
        return union

/-- How a class begins: the stretch of its opening, whether it is negated, and the
literals that can only stand there. -/
structure ClassOpening where
  span : Span
  negated : Bool
  union : Juxtaposed

def classOpening : Reader ClassOpening := do
  let start ← here
  if !(← bumpAndSkip) then
    fail (← spanFrom start) .classUnclosed
  else
    let negated := (← current) = some '^'
    let unfinished ← if negated then (!·) <$> bumpAndSkip else pure false
    if unfinished then
      fail (← spanFrom start) .classUnclosed
    else
      let union ← leadingHyphens start (← get).rest.length { span := ← point }
      if union.items.isEmpty ∧ (← current) = some ']' then
        let union := union.push (.literal { span := ← charSpan, char := ']' })
        if ← bumpAndSkip then
          return { span := ← spanFrom start, negated, union }
        else
          fail (← spanFrom start) .classUnclosed
      else
        return { span := ← spanFrom start, negated, union }

def classPrimitive : Reader Primitive := do
  match ← current with
  | some '\\' => escape
  | char =>
      let span ← charSpan
      let _ ← bump
      return .literal { span, char := char.getD '\\' }

/-- A single item or a range.  A hyphen before `]` or before another hyphen does not
make a range. -/
def classRange (opening : Span) : Reader ClassNode := do
  let first ← classPrimitive
  skipBlanks
  match ← current with
  | none => fail opening .classUnclosed
  | some char =>
      let following := (← get).peekPast
      if char ≠ '-' ∨ following = some ']' ∨ following = some '-' then
        first.classItem
      else if !(← bumpAndSkip) then
        fail opening .classUnclosed
      else
        let second ← classPrimitive
        let span : Span := ⟨first.span.start, second.span.stop⟩
        let low ← first.bound
        let high ← second.bound
        if low.char ≤ high.char then
          return .range span low high
        else
          fail span .classRangeInvalid

mutual
/-- Reads a class, the cursor being at its `[`.  The number bounds the characters read. -/
def bracketed : Nat → Reader (Span × Bool × ClassNode)
  | 0 => do fail (← point) .classUnclosed
  | room + 1 => do
      let start ← here
      let opening ← classOpening
      let body ← classItems room opening.span opening.union none
      let _ ← bump
      return (← spanFrom start, opening.negated, body)

def classItems :
    Nat → Span → Juxtaposed → Option OpenOperation → Reader ClassNode
  | 0, opening, _, _ => fail opening .classUnclosed
  | room + 1, opening, union, pending => do
      skipBlanks
      let operation (operator : ClassOperator) : Reader ClassNode := do
        let _ ← bump
        let _ ← bump
        let left := OpenOperation.close pending union.node
        classItems room opening { span := ← point } (some { operator, left })
      match (← get).rest with
      | [] => fail opening .classUnclosed
      | '[' :: _ =>
          match ← posixClass with
          | some item => classItems room opening (union.push item) pending
          | none =>
              let (span, negated, body) ← bracketed room
              classItems room opening (union.push (.bracketed span negated body)) pending
      | ']' :: _ => return OpenOperation.close pending union.node
      | '&' :: '&' :: _ => operation .intersection
      | '-' :: '-' :: _ => operation .difference
      | '~' :: '~' :: _ => operation .symmetricDifference
      | _ =>
          let item ← classRange opening
          classItems room opening (union.push item) pending
end

end Reader
end FixtureRunner.Pattern
