/-
Scripts that edit a stream of lines: which lines a command is for, and what it does.
-/

import FixtureRunner.Search.Match

namespace FixtureRunner.Edit

structure Pattern where
  compiled : Option Search.Compiled
  ignoresCase : Bool := false
  multiline : Bool := false

inductive Address where
  | line (number : Nat)
  | step (first step : Nat)
  | last
  | pattern (pattern : Pattern)

inductive RangeStop where
  | address (address : Address)
  | after (count : Nat)
  | multiple (factor : Nat)

structure Scope where
  first : Option Address := none
  stop : Option RangeStop := none
  negated : Bool := false

inductive Case where
  | same
  | upper
  | lower
deriving DecidableEq

/-- A piece of a replacement: a text and then a group, both in the same case; the case of the
first letter may be another. -/
structure Replacement where
  text : Raw
  group : Option Nat := none
  case : Case := .same
  first : Case := .same

structure Substitution where
  pattern : Pattern
  replacement : List Replacement
  number : Nat := 1
  isGlobal : Bool := false
  prints : Bool := false
  executes : Bool := false
  file : Option Raw := none

inductive BranchWhen where
  | always
  | replaced
  | notReplaced
deriving DecidableEq

inductive Action where
  | block (stop : Nat)
  | blockEnd
  | branch (when : BranchWhen) (target : Nat)
  | substitute (substitution : Substitution)
  | exchangeChars (table : List (Char × Char))
  | append (text : Raw)
  | insert (text : Raw)
  | change (text : Raw)
  | appendFile (name : Raw)
  | appendLine (name : Raw)
  | write (name : Raw)
  | writeFirst (name : Raw)
  | delete
  | deleteFirst
  | print
  | printFirst
  | next
  | nextAppend
  | hold
  | holdAppend
  | get
  | getAppend
  | exchange
  | lineNumber
  | list (width : Option Nat)
  | quit (status : Nat)
  | quitSilently (status : Nat)
  | clear
  | fileName
  | execute (command : Option Raw)

structure Command where
  scope : Scope
  action : Action

structure Script where
  commands : Array Command
  isQuiet : Bool := false
  files : List Raw := []

/-! ### Replacing -/

def Case.apply (case : Case) (char : Char) : Char :=
  match case with
  | .same => char
  | .upper => char.toUpper
  | .lower => char.toLower

def cased (case first : Case) : Raw → Raw
  | [] => []
  | char :: rest =>
      (if first = .same then case.apply char else first.apply char) :: rest.map case.apply

/-- The text that takes the place of a match.  The case of a first letter waits for a group
that is not empty. -/
def replacementText (groupText : Nat → Raw) : List Replacement → Case → Raw
  | [], _ => []
  | piece :: rest, waiting =>
      let first := if piece.first = .same then waiting else piece.first
      let lead := cased piece.case first piece.text
      let firstLeft : Case := if piece.text.isEmpty then first else .same
      match piece.group with
      | none => lead ++ replacementText groupText rest .same
      | some number =>
          let text := groupText number
          if text.isEmpty then
            lead ++ replacementText groupText rest (if piece.first = .same then .same else firstLeft)
          else
            lead ++ cased piece.case firstLeft text ++ replacementText groupText rest .same

def stretch (text : Array Char) (start stop : Nat) : Raw :=
  (text.extract start stop).toList

/-- Replaces matches from a position on: what has been made is kept backwards, and an empty
match right behind another does not count; `room` bounds the matches. -/
def replaceFrom (field : Search.Field) (compiled : Search.Compiled) (substitution : Substitution) :
    Nat → Nat → Nat → Option Nat → List Raw → Bool → List Raw × Bool
  | 0, start, _, _, made, isReplaced => (stretch field.text start field.text.size :: made, isReplaced)
  | room + 1, start, count, before, made, isReplaced =>
      match (if field.text.size < start then none else Search.find? field compiled true start) with
      | none => (stretch field.text start field.text.size :: made, isReplaced)
      | some found =>
          let led := stretch field.text start found.start :: made
          let isEmpty := found.start = found.stop
          let next := stretch field.text found.stop (found.stop + 1)
          if isEmpty && before = some found.start then
            replaceFrom field compiled substitution room (found.stop + 1) count none (next :: led)
              isReplaced
          else
            let isCounted := substitution.number ≤ count + 1
            let groupText (number : Nat) : Raw :=
              if number = 0 then stretch field.text found.start found.stop
              else
                match found.groups.lookup number with
                | some (first, last) => stretch field.text first last
                | none => []
            let put :=
              if isCounted then replacementText groupText substitution.replacement .same
              else stretch field.text found.start found.stop
            let changed := put :: led
            if isCounted && !substitution.isGlobal then
              (stretch field.text found.stop field.text.size :: changed, true)
            else if isEmpty then
              replaceFrom field compiled substitution room (found.stop + 1) (count + 1) none
                (next :: changed) (isReplaced || isCounted)
            else
              replaceFrom field compiled substitution room found.stop (count + 1) (some found.stop)
                changed (isReplaced || isCounted)

def Substitution.applied? (substitution : Substitution) (compiled : Search.Compiled) (text : Raw) :
    Option Raw :=
  let field : Search.Field :=
    { text := text.toArray
      ignoreCase := substitution.pattern.ignoresCase
      multiline := substitution.pattern.multiline }
  let (made, isReplaced) := replaceFrom field compiled substitution (text.length + 2) 0 0 none [] false
  if isReplaced then some made.reverse.flatten else none

/-! ### Showing -/

def listedChar (char : Char) : Raw :=
  match char with
  | '\\' => ['\\', '\\']
  | '\x07' => ['\\', 'a']
  | '\x08' => ['\\', 'b']
  | '\x0C' => ['\\', 'f']
  | '\n' => ['\\', 'n']
  | '\r' => ['\\', 'r']
  | '\t' => ['\\', 't']
  | '\x0B' => ['\\', 'v']
  | _ =>
      if ' ' ≤ char && char ≤ '~' then [char]
      else
        let code := char.toNat
        ['\\', Nat.digitChar (code / 64 % 8), Nat.digitChar (code / 8 % 8), Nat.digitChar (code % 8)]

def listedFrom (width : Nat) : Raw → Nat → List Raw → List Raw
  | [], _, made => ['$', '\n'] :: made
  | char :: rest, place, made =>
      let shown := listedChar char
      if 0 < width && width - 1 < place + shown.length then
        listedFrom width rest shown.length (shown :: ['\\', '\n'] :: made)
      else
        listedFrom width rest (place + shown.length) (shown :: made)

def listed (width : Nat) (text : Raw) : Raw :=
  (listedFrom width text 0 []).reverse.flatten

end FixtureRunner.Edit
