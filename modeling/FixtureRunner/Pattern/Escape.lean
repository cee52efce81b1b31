/-
What a backslash introduces: a literal, a class, a boundary, or a fault.
-/

import FixtureRunner.Pattern.Cursor

namespace FixtureRunner.Pattern

inductive Primitive where
  | literal (char : Literal)
  | assertion (span : Span) (kind : Assertion)
  | dot (span : Span)
  | perl (span : Span) (kind : PerlClass) (negated : Bool)
  | property (span : Span) (query : PropertyQuery) (negated : Bool)

namespace Primitive

def span : Primitive → Span
  | .literal char => char.span
  | .assertion span _ => span
  | .dot span => span
  | .perl span _ _ => span
  | .property span _ _ => span

def node : Primitive → Node
  | .literal char => .literal char
  | .assertion span kind => .assertion span kind
  | .dot span => .dot span
  | .perl span kind negated => .perl span kind negated
  | .property span query negated => .property span query negated

def classItem : Primitive → Except Fault ClassNode
  | .literal char => .ok (.literal char)
  | .perl span kind negated => .ok (.perl span kind negated)
  | .property span query negated => .ok (.property span query negated)
  | other => .error { span := other.span, cause := .classEscapeInvalid }

def bound : Primitive → Except Fault Literal
  | .literal char => .ok char
  | other => .error { span := other.span, cause := .classRangeLiteral }

end Primitive

namespace Reader

/-! ### Numbers -/

def isHexDigit (char : Char) : Bool :=
  char.isDigit || ('a' ≤ char && char ≤ 'f') || ('A' ≤ char && char ≤ 'F')

def hexDigit (char : Char) : Nat :=
  if char.isDigit then char.toNat - '0'.toNat
  else if 'a' ≤ char then char.toNat - 'a'.toNat + 10
  else char.toNat - 'A'.toNat + 10

def hexValue (digits : Text) : Nat :=
  digits.foldl (fun value digit => value * 16 + hexDigit digit) 0

def decimalValue (digits : Text) : Nat :=
  digits.foldl (fun value digit => value * 10 + (digit.toNat - '0'.toNat)) 0

/-- A code point that is a character, surrogates excluded. -/
def scalar? (code : Nat) : Option Char :=
  if code < 0xD800 || (0xDFFF < code && code < 0x110000) then some (Char.ofNat code) else none

/-- Reads a repetition count.  A fault is handed back instead of raised, since a
later character may bring a fault that goes first. -/
def decimal : Reader (Except Fault Nat) := do
  let _ ← takeWhile Text.isBlank Cursor.next
  let start ← here
  let digits ← takeWhile Char.isDigit Cursor.nextAndSkip
  let span ← spanFrom start
  let _ ← takeWhile Text.isBlank Cursor.nextAndSkip
  if digits.isEmpty then
    return .error { span, cause := .repetitionCountEmpty }
  else if decimalValue digits < Nat.pow 2 32 then
    return .ok (decimalValue digits)
  else
    return .error { span, cause := .decimalInvalid }

/-! ### Escapes -/

def hexDigitHere : Reader Char := do
  match ← current with
  | none => fail (← point) .escapeUnexpectedEnd
  | some char => if isHexDigit char then return char else fail (← charSpan) .escapeHexInvalidDigit

def hexDigits : Nat → Reader Text
  | 0 => do
      let digit ← hexDigitHere
      let _ ← bumpAndSkip
      return [digit]
  | count + 1 => do
      let digit ← hexDigitHere
      if ← bumpAndSkip then
        return digit :: (← hexDigits count)
      else
        fail (← point) .escapeUnexpectedEnd

/-- A literal by number; `start` is where the backslash stands and the cursor is at
the letter after it. -/
def hexLiteral (start : Position) : Reader Primitive := do
  let letter := (← current).getD 'x'
  if !(← bumpAndSkip) then
    fail (← point) .escapeUnexpectedEnd
  else if (← current) = some '{' then
    let brace ← here
    let digitsStart := (← charSpan).stop
    let _ ← bumpAndSkip
    let digits ← takeWhile isHexDigit Cursor.nextAndSkip
    match ← current with
    | none => fail (← spanFrom brace) .escapeUnexpectedEnd
    | some char =>
        if char ≠ '}' then
          fail (← charSpan) .escapeHexInvalidDigit
        else
          let digitsStop ← here
          let _ ← bumpAndSkip
          if digits.isEmpty then
            fail (← spanFrom brace) .escapeHexEmpty
          else
            match scalar? (hexValue digits) with
            | none => fail ⟨digitsStart, digitsStop⟩ .escapeHexInvalid
            | some char => return .literal { span := ← spanFrom start, char }
  else
    let digitsStart ← here
    let count := if letter = 'x' then 1 else if letter = 'u' then 3 else 7
    let digits ← hexDigits count
    match scalar? (hexValue digits) with
    | none => fail (← spanFrom digitsStart) .escapeHexInvalid
    | some char =>
        return .literal { span := ← spanFrom start, char, isByte := letter = 'x' }

/-- Splits the text of a braced property at `!=`, else at `:`, else at `=`. -/
def propertyQuery (name : Text) : PropertyQuery :=
  let rec findDiffers : Text → Text → Option (Text × Text)
    | _, [] => none
    | before, '!' :: '=' :: rest => some (before.reverse, rest)
    | before, char :: rest => findDiffers (char :: before) rest
  let cutAt (separator : Char) : Option (Text × Text) :=
    match name.span (· ≠ separator) with
    | (_, []) => none
    | (before, _ :: rest) => some (before, rest)
  match findDiffers [] name with
  | some (property, value) => .valued property value true
  | none =>
      match cutAt ':' with
      | some (property, value) => .valued property value false
      | none =>
          match cutAt '=' with
          | some (property, value) => .valued property value false
          | none => .named name

def propertyClass (start : Position) : Reader Primitive := do
  let negated := (← current) = some 'P'
  if !(← bumpAndSkip) then
    fail (← point) .escapeUnexpectedEnd
  else
    match ← current with
    | some '{' =>
        let _ ← bumpAndSkip
        let name ← takeWhile (· ≠ '}') Cursor.nextAndSkip
        if ← atEnd then
          fail (← point) .escapeUnexpectedEnd
        else
          let _ ← bump
          return .property (← spanFrom start) (propertyQuery name) negated
    | some '\\' => fail (← charSpan) .propertyInvalid
    | char =>
        let _ ← bumpAndSkip
        return .property (← spanFrom start) (.named char.toList) negated

/-- After `\b`, a brace may name a kind of boundary.  If what follows the brace cannot
begin such a name, nothing is read: the brace is left for a repetition. -/
def boundaryKind (start : Position) : Reader (Option Assertion) := do
  let saved ← get
  let brace ← here
  let isNameChar (char : Char) : Bool :=
    ('A' ≤ char && char ≤ 'Z') || ('a' ≤ char && char ≤ 'z') || char = '-'
  if !(← bumpAndSkip) then
    fail (← spanFrom start) .wordBoundaryUnexpectedEnd
  else
    let nameStart ← here
    if !((← current).any isNameChar) then
      set saved
      return none
    else
      let name ← takeWhile isNameChar Cursor.nextAndSkip
      if (← current) ≠ some '}' then
        fail (← spanFrom brace) .wordBoundaryUnclosed
      else
        let nameStop ← here
        let _ ← bump
        match String.ofList name with
        | "start" => return some .wordStart
        | "end" => return some .wordEnd
        | "start-half" => return some .wordStartHalf
        | "end-half" => return some .wordEndHalf
        | _ => fail ⟨nameStart, nameStop⟩ .wordBoundaryUnrecognized

/-- Any ASCII character but letters, digits and angle brackets may be escaped to
stand for itself. -/
def isEscapable (char : Char) : Bool :=
  char.toNat < 0x80 && !char.isAlphanum && char ≠ '<' && char ≠ '>'

def escape : Reader Primitive := do
  let start ← here
  if !(← bump) then
    fail (← spanFrom start) .escapeUnexpectedEnd
  else
    let char := (← current).getD '\\'
    let perl (kind : PerlClass) (negated : Bool) : Reader Primitive := do
      let _ ← bump
      return .perl (← spanFrom start) kind negated
    let special (stands : Char) : Reader Primitive := do
      let _ ← bump
      return .literal { span := ← spanFrom start, char := stands }
    let assertion (kind : Assertion) : Reader Primitive := do
      let _ ← bump
      return .assertion (← spanFrom start) kind
    if char.isDigit then
      fail ⟨start, (← charSpan).stop⟩ .backreference
    else if char = 'x' ∨ char = 'u' ∨ char = 'U' then
      hexLiteral start
    else if char = 'p' ∨ char = 'P' then
      propertyClass start
    else if isEscapable char then
      special char
    else
      match char with
      | 'd' => perl .digit false
      | 's' => perl .space false
      | 'w' => perl .word false
      | 'D' => perl .digit true
      | 'S' => perl .space true
      | 'W' => perl .word true
      | 'a' => special '\x07'
      | 'f' => special '\x0C'
      | 't' => special '\t'
      | 'n' => special '\n'
      | 'r' => special '\r'
      | 'v' => special '\x0B'
      | 'A' => assertion .startText
      | 'z' => assertion .endText
      | 'B' => assertion .notWordBoundary
      | '<' => assertion .wordStart
      | '>' => assertion .wordEnd
      | 'b' =>
          let _ ← bump
          let plain ← spanFrom start
          if (← current) = some '{' then
            match ← boundaryKind start with
            | some kind => return .assertion (← spanFrom start) kind
            | none => return .assertion plain .wordBoundary
          else
            return .assertion plain .wordBoundary
      | _ =>
          let _ ← bump
          fail (← spanFrom start) .escapeUnrecognized

end Reader
end FixtureRunner.Pattern
