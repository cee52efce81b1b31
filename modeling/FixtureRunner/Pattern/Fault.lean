/-
Where a pattern is wrong and how that is shown.

A fault names a stretch of the pattern, and for a repeated name or flag also the
stretch that it repeats.  It is shown as the pattern's lines with carets under
those stretches, followed by the cause in words.
-/

import FixtureRunner.Text.Lines

namespace FixtureRunner.Pattern

structure Position where
  offset : Nat
  line : Nat
  column : Nat
deriving DecidableEq

def Position.start : Position := ⟨0, 1, 1⟩

def Position.after (position : Position) (char : Char) : Position :=
  if char = '\n' then ⟨position.offset + 1, position.line + 1, 1⟩
  else ⟨position.offset + 1, position.line, position.column + 1⟩

structure Span where
  start : Position
  stop : Position
deriving DecidableEq

inductive Cause where
  | classEscapeInvalid
  | classRangeInvalid
  | classRangeLiteral
  | classUnclosed
  | decimalEmpty
  | decimalInvalid
  | escapeHexEmpty
  | escapeHexInvalid
  | escapeHexInvalidDigit
  | escapeUnexpectedEnd
  | escapeUnrecognized
  | flagDanglingNegation
  | flagDuplicate
  | flagRepeatedNegation
  | flagUnexpectedEnd
  | flagUnrecognized
  | groupNameDuplicate
  | groupNameEmpty
  | groupNameInvalid
  | groupNameUnexpectedEnd
  | groupUnclosed
  | groupUnopened
  | nestingTooDeep (limit : Nat)
  | repetitionCountInvalid
  | repetitionCountEmpty
  | repetitionCountUnclosed
  | repetitionMissing
  | wordBoundaryUnclosed
  | wordBoundaryUnrecognized
  | wordBoundaryUnexpectedEnd
  | propertyInvalid
  | backreference
  | lookAround
  | unicodeNotAllowed
  | invalidEncoding
  | propertyNotFound
  | propertyValueNotFound
deriving DecidableEq

def Cause.message : Cause → String
  | .classEscapeInvalid => "invalid escape sequence found in character class"
  | .classRangeInvalid => "invalid character class range, the start must be <= the end"
  | .classRangeLiteral => "invalid range boundary, must be a literal"
  | .classUnclosed => "unclosed character class"
  | .decimalEmpty => "decimal literal empty"
  | .decimalInvalid => "decimal literal invalid"
  | .escapeHexEmpty => "hexadecimal literal empty"
  | .escapeHexInvalid => "hexadecimal literal is not a Unicode scalar value"
  | .escapeHexInvalidDigit => "invalid hexadecimal digit"
  | .escapeUnexpectedEnd => "incomplete escape sequence, reached end of pattern prematurely"
  | .escapeUnrecognized => "unrecognized escape sequence"
  | .flagDanglingNegation => "dangling flag negation operator"
  | .flagDuplicate => "duplicate flag"
  | .flagRepeatedNegation => "flag negation operator repeated"
  | .flagUnexpectedEnd => "expected flag but got end of regex"
  | .flagUnrecognized => "unrecognized flag"
  | .groupNameDuplicate => "duplicate capture group name"
  | .groupNameEmpty => "empty capture group name"
  | .groupNameInvalid => "invalid capture group character"
  | .groupNameUnexpectedEnd => "unclosed capture group name"
  | .groupUnclosed => "unclosed group"
  | .groupUnopened => "unopened group"
  | .nestingTooDeep limit =>
      s!"exceed the maximum number of nested parentheses/brackets ({limit})"
  | .repetitionCountInvalid => "invalid repetition count range, the start must be <= the end"
  | .repetitionCountEmpty => "repetition quantifier expects a valid decimal"
  | .repetitionCountUnclosed => "unclosed counted repetition"
  | .repetitionMissing => "repetition operator missing expression"
  | .wordBoundaryUnclosed =>
      "special word boundary assertion is either unclosed or contains an invalid character"
  | .wordBoundaryUnrecognized =>
      "unrecognized special word boundary assertion, valid choices are: " ++
        "start, end, start-half or end-half"
  | .wordBoundaryUnexpectedEnd =>
      "found either the beginning of a special word boundary or a bounded repetition " ++
        "on a \\b with an opening brace, but no closing brace"
  | .propertyInvalid => "invalid Unicode character class"
  | .backreference => "backreferences are not supported"
  | .lookAround => "look-around, including look-ahead and look-behind, is not supported"
  | .unicodeNotAllowed => "Unicode not allowed here"
  | .invalidEncoding => "pattern can match invalid UTF-8"
  | .propertyNotFound => "Unicode property not found"
  | .propertyValueNotFound => "Unicode property value not found"

structure Fault where
  span : Span
  cause : Cause
  earlier : Option Span := none
deriving DecidableEq

/-! ### Showing a fault -/

/-- The lines of a pattern as shown: a carriage return before a newline is dropped. -/
def shownLines (pattern : Text) : List Text :=
  (Text.pieces pattern).map fun piece =>
    let line := Text.body piece
    if line.length < piece.length ∧ line.getLast? = some '\r' then line.dropLast else line

def Span.isOneLine (span : Span) : Bool :=
  span.start.line = span.stop.line

def Fault.spans (fault : Fault) : List Span :=
  match fault.earlier with
  | none => [fault.span]
  | some earlier =>
      if earlier.start.offset ≤ fault.span.start.offset then [earlier, fault.span]
      else [fault.span, earlier]

/-- Carets under the given stretches of one line, from column `column` on; an empty
stretch gets one caret. -/
def carets : Nat → List Span → Text
  | _, [] => []
  | column, span :: rest =>
      let width := max 1 (span.stop.column - span.start.column)
      List.replicate (span.start.column - column) ' ' ++ List.replicate width '^' ++
        carets (max column span.start.column + width) rest

def leftPad (width : Nat) (text : Text) : Text :=
  List.replicate (width - text.length) ' ' ++ text

def Fault.notated (fault : Fault) (pattern : Text) : Text :=
  let lines := shownLines pattern
  let count := lines.length + (if pattern.getLast? = some '\n' then 1 else 0)
  let width := if count ≤ 1 then 0 else (toString count).length
  let margin := if width = 0 then 4 else width + 2
  lines.zipIdx.flatMap fun (line, index) =>
    let number := (toString (index + 1)).toList
    let label :=
      if width = 0 then List.replicate margin ' ' else leftPad width number ++ [':', ' ']
    let marked := fault.spans.filter fun span => span.isOneLine && span.start.line == index + 1
    let notes :=
      if marked.isEmpty then []
      else List.replicate margin ' ' ++ carets 1 marked ++ ['\n']
    label ++ line ++ ['\n'] ++ notes

/-- Stretches over several lines are described instead of marked. -/
def Fault.acrossLines (fault : Fault) : List String :=
  (fault.spans.filter fun span => !span.isOneLine).map fun span =>
    let fromLine := span.start.line
    let fromColumn := span.start.column
    let toLine := span.stop.line
    let toColumn := span.stop.column - 1
    s!"on line {fromLine} (column {fromColumn}) through line {toLine} (column {toColumn})\n"

def Fault.message (fault : Fault) (pattern : Text) : String :=
  let notated := String.ofList (fault.notated pattern)
  let cause := fault.cause.message
  if pattern.contains '\n' then
    let divider := String.ofList (List.replicate 79 '~')
    let across := String.join fault.acrossLines
    s!"regex parse error:\n{divider}\n{notated}{divider}\n{across}error: {cause}"
  else
    s!"regex parse error:\n{notated}error: {cause}"

end FixtureRunner.Pattern
