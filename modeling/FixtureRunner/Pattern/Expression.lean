/-
What a pattern matches.

An expression is matched against one line.  The state of a match is a mark for
every place between two characters of the line, the ends included; an expression
carries a set of marked places to the set of places where it can end.  Nothing is
tried twice, and whether a line matches does not depend on which way is preferred.
-/

import FixtureRunner.Text.Property

namespace FixtureRunner.Pattern

inductive Look where
  | start
  | stop
  | startLine
  | stopLine
  /-- Line starts where `\r\n`, `\r` and `\n` end lines. -/
  | startAnyLine
  | stopAnyLine
  | boundary (isWord : Char → Bool)
  | notBoundary (isWord : Char → Bool)
  | wordStart (isWord : Char → Bool)
  | wordStop (isWord : Char → Bool)
  | wordStartHalf (isWord : Char → Bool)
  | wordStopHalf (isWord : Char → Bool)

def Look.holds : Look → Option Char → Option Char → Bool
  | .start, before, _ => before.isNone
  | .stop, _, after => after.isNone
  | .startLine, before, _ => before.all (· = '\n')
  | .stopLine, _, after => after.all (· = '\n')
  | .startAnyLine, before, after =>
      before.all fun char => char = '\n' || (char = '\r' && after ≠ some '\n')
  | .stopAnyLine, before, after =>
      after.all fun char => char = '\r' || (char = '\n' && before ≠ some '\r')
  | .boundary isWord, before, after => before.any isWord != after.any isWord
  | .notBoundary isWord, before, after => before.any isWord == after.any isWord
  | .wordStart isWord, before, after => !before.any isWord && after.any isWord
  | .wordStop isWord, before, after => before.any isWord && !after.any isWord
  | .wordStartHalf isWord, before, _ => !before.any isWord
  | .wordStopHalf isWord, _, after => !after.any isWord

inductive Expression where
  | empty
  | one (accepts : Char → Bool)
  | look (condition : Look)
  | sequence (first second : Expression)
  | choice (left right : Expression)
  /-- At least `least` times and, if there is a bound, at most `most` times. -/
  | repetition (least : Nat) (most : Option Nat) (body : Expression)

/-- One mark for each place of a line. -/
abbrev Marks := List Bool

namespace Marks

def union (left right : Marks) : Marks :=
  List.zipWith (· || ·) left right

/-- Applies a step up to `count` times and keeps every place passed. -/
def grow (step : Marks → Marks) : Nat → Marks → Marks
  | 0, marks => marks
  | count + 1, marks =>
      let grown := marks.union (step marks)
      if grown = marks then marks else grow step count grown

end Marks

def sides (line : Text) : List (Option Char × Option Char) :=
  List.zip (none :: line.map some) (line.map some ++ [none])

namespace Expression

/-- From the marked places to those where the expression can end. -/
def advance (line : Text) : Expression → Marks → Marks
  | .empty, marks => marks
  | .one accepts, marks =>
      false :: List.zipWith (fun mark char => mark && accepts char) marks line
  | .look condition, marks =>
      List.zipWith (fun mark side => mark && condition.holds side.1 side.2) marks (sides line)
  | .sequence first second, marks => second.advance line (first.advance line marks)
  | .choice left right, marks => (left.advance line marks).union (right.advance line marks)
  | .repetition least most body, marks =>
      let step := body.advance line
      let further :=
        match most with
        | none => line.length + 1
        | some most => most - least
      Marks.grow step further (Nat.repeat step least marks)

def matchesIn (expression : Expression) (line : Text) : Bool :=
  (expression.advance line (List.replicate (line.length + 1) true)).any id

end Expression
end FixtureRunner.Pattern
