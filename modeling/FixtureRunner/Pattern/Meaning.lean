/-
From the syntax tree of a pattern to the expression it stands for.

Flags hold from where they are set to the end of the enclosing group.  Without the
Unicode flag classes are sets of bytes, and a class that holds a byte above the
ASCII range is refused, because it could match inside a character.

Of the named properties of Unicode only a few are known, the others are refused, and
there is no bound on the size of an expression: settings are loaded with any `Compiler`,
of which `compile` is one.
-/

import FixtureRunner.Pattern.Expression
import FixtureRunner.Pattern.Parser

namespace FixtureRunner.Pattern

structure Mode where
  caseInsensitive : Bool := false
  multiLine : Bool := false
  dotMatchesNewline : Bool := false
  unicode : Bool := true
  carriageReturn : Bool := false

def Mode.apply (mode : Mode) (items : List FlagItem) : Mode :=
  let pick (flag : Flag) (old : Bool) : Bool := (FlagItem.state flag items).getD old
  { caseInsensitive := pick .caseInsensitive mode.caseInsensitive
    multiLine := pick .multiLine mode.multiLine
    dotMatchesNewline := pick .dotMatchesNewline mode.dotMatchesNewline
    unicode := pick .unicode mode.unicode
    carriageReturn := pick .carriageReturn mode.carriageReturn }

/-! ### Sets of characters -/

abbrev CharSet := Char → Bool

def isAscii (char : Char) : Bool :=
  char.toNat < 0x80

def inRange (low high : Char) (char : Char) : Bool :=
  low ≤ char && char ≤ high

def PosixClass.contains : PosixClass → CharSet
  | .alnum, char => char.isAlphanum
  | .alpha, char => char.isAlpha
  | .ascii, char => isAscii char
  | .blank, char => char = '\t' || char = ' '
  | .cntrl, char => char.toNat < 0x20 || char.toNat == 0x7F
  | .digit, char => char.isDigit
  | .graph, char => inRange '!' '~' char
  | .lower, char => inRange 'a' 'z' char
  | .print, char => inRange ' ' '~' char
  | .punct, char => inRange '!' '~' char && !char.isAlphanum
  | .space, char => inRange '\t' '\r' char || char = ' '
  | .upper, char => inRange 'A' 'Z' char
  | .word, char => char.isAlphanum || char = '_'
  | .xdigit, char => Reader.isHexDigit char

/-- A property as patterns know it, which is one edition behind. -/
def settled (property : CharSet) : CharSet :=
  fun char => property char && !Text.Property.isRecent char

def PerlClass.contains (unicode : Bool) : PerlClass → CharSet
  | .digit => if unicode then settled Text.Property.isDigit else PosixClass.digit.contains
  | .space => if unicode then Text.isBlank else PosixClass.space.contains
  | .word => if unicode then settled Text.Property.isWord else PosixClass.word.contains

def CharSet.folded (mode : Mode) (set : CharSet) : CharSet :=
  if !mode.caseInsensitive then set
  else if mode.unicode then fun char => (Text.Property.variants char).any set
  else fun char => set char || (char.isAlpha && (set char.toLower || set char.toUpper))

def CharSet.negatedIf (negated : Bool) (set : CharSet) : CharSet :=
  fun char => set char != negated

/-- Refuses a set of bytes that goes beyond ASCII; folding comes before negation. -/
def CharSet.closed (mode : Mode) (span : Span) (negated : Bool) (set : CharSet) :
    Except Fault CharSet :=
  let result := (set.folded mode).negatedIf negated
  if mode.unicode then .ok result
  else if (List.range 0x80).any fun offset => result (Char.ofNat (0x80 + offset)) then
    .error { span, cause := .invalidEncoding }
  else .ok result

/-! ### Properties -/

/-- Names are compared without case, blanks, underscores, hyphens and a leading `is`. -/
def looseName (name : Text) : String :=
  let bare :=
    match name with
    | first :: second :: rest =>
        if (first = 'i' ∨ first = 'I') ∧ (second = 's' ∨ second = 'S') then rest else name
    | _ => name
  String.ofList ((bare.filter fun char =>
    isAscii char && char ≠ ' ' && char ≠ '_' && char ≠ '-').map Char.toLower)

def category? : String → Option CharSet
  | "l" | "letter" => some (settled Text.Property.isLetter)
  | "lu" | "uppercaseletter" => some (settled (Text.Property.within Text.Property.upperRanges))
  | "nd" | "decimalnumber" | "digit" => some (settled Text.Property.isDigit)
  | "n" | "number" => some (settled Text.Property.isNumeric)
  | "any" => some fun _ => true
  | "ascii" => some isAscii
  | _ => none

def script? (extended : Bool) : String → Option CharSet
  | "greek" | "grek" => some (Text.Property.isGreek extended)
  | _ => none

def binaryProperty? : String → Option CharSet
  | "alphabetic" | "alpha" => some (settled Text.Property.isAlphabetic)
  | "whitespace" | "wspace" | "space" => some Text.isBlank
  | _ => none

/-- A bare name is a property, else a general category, else a script. -/
def PropertyQuery.resolve : PropertyQuery → Except Cause CharSet
  | .named name =>
      let name := looseName name
      match binaryProperty? name <|> category? name <|> script? false name with
      | some set => .ok set
      | none => .error .propertyNotFound
  | .valued property value _ =>
      let find (lookup : String → Option CharSet) : Except Cause CharSet :=
        match lookup (looseName value) with
        | some set => .ok set
        | none => .error .propertyValueNotFound
      match looseName property with
      | "gc" | "generalcategory" => find category?
      | "sc" | "script" => find (script? false)
      | "scx" | "scriptextensions" => find (script? true)
      | _ => .error .propertyNotFound

/-- A negation in the query cancels one before it. -/
def PropertyQuery.flips : PropertyQuery → Bool
  | .named _ => false
  | .valued _ _ differs => differs

def propertySet (mode : Mode) (span : Span) (query : PropertyQuery) (negated : Bool) :
    Except Fault CharSet :=
  if !mode.unicode then
    .error { span, cause := .unicodeNotAllowed }
  else
    match query.resolve with
    | .error cause => .error { span, cause }
    | .ok set => CharSet.closed mode span (negated != query.flips) set

/-- These classes hold every case variant of their members already. -/
def perlSet (mode : Mode) (span : Span) (kind : PerlClass) (negated : Bool) :
    Except Fault CharSet :=
  CharSet.closed { mode with caseInsensitive := false } span negated
    (kind.contains mode.unicode)

/-! ### Classes -/

/-- The two-digit form of a literal may stand for a byte that is no character. -/
def Literal.check (mode : Mode) (literal : Literal) : Except Fault Char :=
  if !mode.unicode && literal.isByte && !isAscii literal.char then
    .error { span := literal.span, cause := .invalidEncoding }
  else
    .ok literal.char

def Literal.checkInClass (mode : Mode) (literal : Literal) : Except Fault Char := do
  let char ← literal.check mode
  if mode.unicode || isAscii char then
    return char
  else
    throw { span := literal.span, cause := .unicodeNotAllowed }

mutual
def ClassNode.set (mode : Mode) : ClassNode → Except Fault CharSet
  | .empty _ => .ok fun _ => false
  | .literal written => do
      let char ← written.checkInClass mode
      return (· = char)
  | .range _ low high => do
      let first ← low.checkInClass mode
      let last ← high.checkInClass mode
      return inRange first last
  | .posix span kind negated => CharSet.closed mode span negated kind.contains
  | .property span query negated => propertySet mode span query negated
  | .perl span kind negated => perlSet mode span kind negated
  | .bracketed span negated body => do
      CharSet.closed mode span negated (← body.set mode)
  | .union _ items => ClassNode.unionSet mode items
  | .operation _ operator left right => do
      let leftSet := (← left.set mode).folded mode
      let rightSet := (← right.set mode).folded mode
      match operator with
      | .intersection => return fun char => leftSet char && rightSet char
      | .difference => return fun char => leftSet char && !rightSet char
      | .symmetricDifference => return fun char => leftSet char != rightSet char

def ClassNode.unionSet (mode : Mode) : List ClassNode → Except Fault CharSet
  | [] => .ok fun _ => false
  | item :: rest => do
      let itemSet ← item.set mode
      let restSet ← ClassNode.unionSet mode rest
      return fun char => itemSet char || restSet char
end

/-! ### Expressions -/

def Assertion.look (mode : Mode) (kind : Assertion) : Look :=
  let isWord := PerlClass.word.contains mode.unicode
  match kind with
  | .startLine =>
      if !mode.multiLine then .start
      else if mode.carriageReturn then .startAnyLine else .startLine
  | .endLine =>
      if !mode.multiLine then .stop
      else if mode.carriageReturn then .stopAnyLine else .stopLine
  | .startText => .start
  | .endText => .stop
  | .wordBoundary => .boundary isWord
  | .notWordBoundary => .notBoundary isWord
  | .wordStart => .wordStart isWord
  | .wordEnd => .wordStop isWord
  | .wordStartHalf => .wordStartHalf isWord
  | .wordEndHalf => .wordStopHalf isWord

def dotSet (mode : Mode) : CharSet :=
  if mode.dotMatchesNewline then fun _ => true
  else if mode.carriageReturn then fun char => char ≠ '\r' && char ≠ '\n'
  else fun char => char ≠ '\n'

mutual
def Node.expression (mode : Mode) : Node → Except Fault (Expression × Mode)
  | .empty _ => .ok (.empty, mode)
  | .flags _ items => .ok (.empty, mode.apply items)
  | .literal written => do
      let char ← written.check mode
      return (.one (CharSet.folded mode (· = char)), mode)
  | .dot span =>
      if mode.unicode then .ok (.one (dotSet mode), mode)
      else .error { span, cause := .invalidEncoding }
  | .assertion _ kind => .ok (.look (kind.look mode), mode)
  | .property span query negated => do
      return (.one (← propertySet mode span query negated), mode)
  | .perl span kind negated => do
      return (.one (← perlSet mode span kind negated), mode)
  | .bracketed span negated body => do
      return (.one (← CharSet.closed mode span negated (← body.set mode)), mode)
  | .repetition _ least most body => do
      let (expression, after) ← body.expression mode
      return (.repetition least most expression, after)
  | .group _ items body => do
      let (expression, _) ← body.expression (mode.apply items)
      return (expression, mode)
  | .alternation _ branches => Node.choice mode branches
  | .concatenation _ parts => Node.sequence mode parts

def Node.sequence (mode : Mode) : List Node → Except Fault (Expression × Mode)
  | [] => .ok (.empty, mode)
  | node :: rest => do
      let (first, between) ← node.expression mode
      let (second, after) ← Node.sequence between rest
      return (.sequence first second, after)

/-- An alternation has at least one branch. -/
def Node.choice (mode : Mode) : List Node → Except Fault (Expression × Mode)
  | [] => .ok (.empty, mode)
  | [node] => node.expression mode
  | node :: rest => do
      let (left, between) ← node.expression mode
      let (right, after) ← Node.choice between rest
      return (.choice left right, after)
end

abbrev Compiler := String → Except Fault Expression

def compile : Compiler := fun text => do
  let node ← parse text.toList
  let (expression, _) ← node.expression {}
  return expression

end FixtureRunner.Pattern
