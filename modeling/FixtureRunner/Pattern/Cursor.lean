/-
A cursor in a pattern, and reading as a computation that moves it or faults.

In verbose mode blanks and comments from `#` to the end of the line are skipped
between the elements of a pattern.
-/

import FixtureRunner.Pattern.Syntax
import FixtureRunner.Text.Blank

namespace FixtureRunner.Pattern

structure Cursor where
  rest : Text
  position : Position := .start
  verbose : Bool := false
  /-- The group names read so far and where they stand. -/
  names : List (Text × Span) := []

namespace Cursor

def next (cursor : Cursor) : Cursor :=
  match cursor.rest with
  | [] => cursor
  | char :: rest => { cursor with rest, position := cursor.position.after char }

def skipFrom : Bool → Text → Position → Text × Position
  | _, [], position => ([], position)
  | false, char :: rest, position =>
      if Text.isBlank char then skipFrom false rest (position.after char)
      else if char = '#' then skipFrom true rest (position.after char)
      else (char :: rest, position)
  | true, char :: rest, position => skipFrom (char ≠ '\n') rest (position.after char)

def skip (cursor : Cursor) : Cursor :=
  if cursor.verbose then
    let (rest, position) := skipFrom false cursor.rest cursor.position
    { cursor with rest, position }
  else
    cursor

def nextAndSkip (cursor : Cursor) : Cursor :=
  cursor.next.skip

def takeWhile (test : Char → Bool) (move : Cursor → Cursor) : Nat → Cursor → Text × Cursor
  | 0, cursor => ([], cursor)
  | room + 1, cursor =>
      match cursor.rest with
      | [] => ([], cursor)
      | char :: _ =>
          if test char then
            let (taken, moved) := takeWhile test move room (move cursor)
            (char :: taken, moved)
          else
            ([], cursor)

/-- The character after the current one; in verbose mode the next that is not blank,
where a `#` hides only itself and blanks. -/
def peekPast (cursor : Cursor) : Option Char :=
  let following := cursor.rest.tail
  if cursor.verbose then
    let rec scan : Bool → Text → Option Char
      | _, [] => following.head?
      | comment, char :: rest =>
          if Text.isBlank char then scan comment rest
          else if !comment && char = '#' then scan true rest
          else some char
    scan false following
  else
    following.head?

end Cursor

abbrev Reader := StateT Cursor (Except Fault)

namespace Reader

def current : Reader (Option Char) :=
  return (← get).rest.head?

def atEnd : Reader Bool :=
  return (← get).rest.isEmpty

def here : Reader Position :=
  return (← get).position

def point : Reader Span :=
  return ⟨(← get).position, (← get).position⟩

def charSpan : Reader Span := do
  let cursor ← get
  return ⟨cursor.position, cursor.next.position⟩

def spanFrom (start : Position) : Reader Span :=
  return ⟨start, (← get).position⟩

def bump : Reader Bool := do
  modify Cursor.next
  return !(← get).rest.isEmpty

def skipBlanks : Reader Unit :=
  modify Cursor.skip

def bumpAndSkip : Reader Bool := do
  modify Cursor.nextAndSkip
  return !(← get).rest.isEmpty

def fail {α : Type} (span : Span) (cause : Cause) : Reader α :=
  throw { span, cause }

def bumpIf (expected : String) : Reader Bool := do
  let cursor ← get
  if expected.toList.isPrefixOf cursor.rest then
    set (expected.toList.foldl (fun moved _ => moved.next) cursor)
    return true
  else
    return false

def bumpIfAny : List String → Reader Bool
  | [] => return false
  | expected :: others => do
      if ← bumpIf expected then return true else bumpIfAny others

def takeWhile (test : Char → Bool) (move : Cursor → Cursor) : Reader Text := do
  let cursor ← get
  let (taken, moved) := cursor.takeWhile test move cursor.rest.length
  set moved
  return taken

end Reader
end FixtureRunner.Pattern
