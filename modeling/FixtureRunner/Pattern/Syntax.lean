/-
The syntax tree of a pattern.  Every node knows the stretch of text it was read
from, because faults found later than reading are shown in that text.
-/

import FixtureRunner.Pattern.Fault

namespace FixtureRunner.Pattern

inductive Flag where
  | caseInsensitive
  | multiLine
  | dotMatchesNewline
  | swapGreed
  | unicode
  | carriageReturn
  | verbose
deriving DecidableEq

inductive FlagItem where
  | negation
  | flag (flag : Flag)
deriving DecidableEq

inductive Assertion where
  | startLine
  | endLine
  | startText
  | endText
  | wordBoundary
  | notWordBoundary
  | wordStart
  | wordEnd
  | wordStartHalf
  | wordEndHalf
deriving DecidableEq

inductive PerlClass where
  | digit
  | space
  | word
deriving DecidableEq

inductive PosixClass where
  | alnum | alpha | ascii | blank | cntrl | digit | graph
  | lower | print | punct | space | upper | word | xdigit
deriving DecidableEq

inductive PropertyQuery where
  | named (name : Text)
  | valued (name : Text) (value : Text) (differs : Bool)
deriving DecidableEq

/-- A literal character.  `isByte` marks the two-digit form `\xHH`, which stands
for a byte where characters are not Unicode. -/
structure Literal where
  span : Span
  char : Char
  isByte : Bool := false
deriving DecidableEq

inductive ClassOperator where
  | intersection
  | difference
  | symmetricDifference
deriving DecidableEq

inductive ClassNode where
  | empty (span : Span)
  | literal (char : Literal)
  | range (span : Span) (low high : Literal)
  | posix (span : Span) (kind : PosixClass) (negated : Bool)
  | property (span : Span) (query : PropertyQuery) (negated : Bool)
  | perl (span : Span) (kind : PerlClass) (negated : Bool)
  | bracketed (span : Span) (negated : Bool) (body : ClassNode)
  | union (span : Span) (items : List ClassNode)
  | operation (span : Span) (operator : ClassOperator) (left right : ClassNode)

def ClassNode.span : ClassNode → Span
  | .empty span => span
  | .literal char => char.span
  | .range span _ _ => span
  | .posix span _ _ => span
  | .property span _ _ => span
  | .perl span _ _ => span
  | .bracketed span _ _ => span
  | .union span _ => span
  | .operation span _ _ _ => span

inductive Node where
  | empty (span : Span)
  | flags (span : Span) (items : List FlagItem)
  | literal (char : Literal)
  | dot (span : Span)
  | assertion (span : Span) (kind : Assertion)
  | property (span : Span) (query : PropertyQuery) (negated : Bool)
  | perl (span : Span) (kind : PerlClass) (negated : Bool)
  | bracketed (span : Span) (negated : Bool) (body : ClassNode)
  | repetition (span : Span) (least : Nat) (most : Option Nat) (body : Node)
  | group (span : Span) (flags : List FlagItem) (body : Node)
  | alternation (span : Span) (branches : List Node)
  | concatenation (span : Span) (parts : List Node)

def Node.span : Node → Span
  | .empty span => span
  | .flags span _ => span
  | .literal char => char.span
  | .dot span => span
  | .assertion span _ => span
  | .property span _ _ => span
  | .perl span _ _ => span
  | .bracketed span _ _ => span
  | .repetition span _ _ _ => span
  | .group span _ _ => span
  | .alternation span _ => span
  | .concatenation span _ => span

def FlagItem.state (flag : Flag) (items : List FlagItem) : Option Bool :=
  let scan := items.foldl (fun (state : Bool × Option Bool) item =>
    match item with
    | .negation => (false, state.2)
    | .flag found => (state.1, if found = flag then some state.1 else state.2)) (true, none)
  scan.2

/-! ### Nesting -/

mutual
/-- The first node in reading order that lies deeper than `room` further levels. -/
def ClassNode.tooDeep (room : Nat) : ClassNode → Option Span
  | .bracketed span _ body =>
      match room with
      | 0 => some span
      | room + 1 => body.tooDeep room
  | .union span items =>
      match room with
      | 0 => some span
      | room + 1 => ClassNode.anyTooDeep room items
  | .operation span _ left right =>
      match room with
      | 0 => some span
      | room + 1 => left.tooDeep room <|> right.tooDeep room
  | _ => none

def ClassNode.anyTooDeep (room : Nat) : List ClassNode → Option Span
  | [] => none
  | item :: rest => item.tooDeep room <|> ClassNode.anyTooDeep room rest
end

mutual
def Node.tooDeep (room : Nat) : Node → Option Span
  | .bracketed span _ body =>
      match room with
      | 0 => some span
      | room + 1 => body.tooDeep room
  | .repetition span _ _ body =>
      match room with
      | 0 => some span
      | room + 1 => body.tooDeep room
  | .group span _ body =>
      match room with
      | 0 => some span
      | room + 1 => body.tooDeep room
  | .alternation span branches =>
      match room with
      | 0 => some span
      | room + 1 => Node.anyTooDeep room branches
  | .concatenation span parts =>
      match room with
      | 0 => some span
      | room + 1 => Node.anyTooDeep room parts
  | _ => none

def Node.anyTooDeep (room : Nat) : List Node → Option Span
  | [] => none
  | node :: rest => node.tooDeep room <|> Node.anyTooDeep room rest
end

end FixtureRunner.Pattern
