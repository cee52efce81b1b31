/-
The tool that reads words and runs a command on them, so many at a time.
-/

import FixtureRunner.Shell.Launcher

namespace FixtureRunner.Shell

open Tool (Program Arguments Usage option wordOption withArguments)

namespace Gather

/-! ### Words -/

structure Item where
  text : Raw
  endsLine : Bool := false

inductive QuoteFault where
  | single
  | double

def QuoteFault.message (fault : QuoteFault) : Raw :=
  let kind :=
    match fault with
    | .single => "single"
    | .double => "double"
  ("unmatched " ++ kind ++
    " quote; by default quotes are special to xargs unless you use the -0 option").toList

structure Reading where
  items : List Item := []
  current : Option Raw := none
  /-- A blank stands at the end of the line so far, which then goes on. -/
  isBlank : Bool := false

def Reading.close (reading : Reading) (endsLine : Bool) : Reading :=
  match reading.current with
  | some text => { items := { text := text.reverse, endsLine } :: reading.items }
  | none =>
      if endsLine && !reading.isBlank then
        match reading.items with
        | last :: rest => { items := { last with endsLine := true } :: rest }
        | [] => {}
      else
        { reading with isBlank := false }

def Reading.take (reading : Reading) (char : Char) : Reading :=
  { reading with current := some (char :: reading.current.getD []), isBlank := false }

def read (byLine : Bool) : Option Char → Raw → Reading → List Item × Option QuoteFault
  | some quote, [], reading =>
      (reading.items.reverse, some (if quote = '"' then .double else .single))
  | none, [], reading => ((reading.close true).items.reverse, none)
  | some quote, char :: rest, reading =>
      if char = quote then read byLine none rest { reading with current := some (reading.current.getD []) }
      else if char = '\n' then
        (reading.items.reverse, some (if quote = '"' then .double else .single))
      else read byLine (some quote) rest (reading.take char)
  | none, '\\' :: char :: rest, reading => read byLine none rest (reading.take char)
  | none, char :: rest, reading =>
      if char = '\'' || char = '"' then
        read byLine (some char) rest { reading with current := some (reading.current.getD []) }
      else if char = '\n' then read byLine none rest (reading.close true)
      else if char = ' ' || char = '\t' then
        if byLine then
          read byLine none rest (if reading.current.isSome then reading.take char else reading)
        else
          read byLine none rest { reading.close false with isBlank := true }
      else read byLine none rest (reading.take char)

def separated (mark : Char) (text : Raw) : List Item :=
  (Tool.linesOf mark text).map fun line => { text := line, endsLine := true }

def separator? (text : Raw) : Option Char :=
  match text with
  | [char] => some char
  | ['\\', letter] =>
      match letter with
      | 'n' => some '\n'
      | 't' => some '\t'
      | '0' => some '\x00'
      | 'r' => some '\r'
      | '\\' => some '\\'
      | other => some other
  | _ => none

/-! ### Requests -/

structure Request where
  command : List Raw
  replaced : Option Raw := none
  mostWords : Option Nat := none
  mostLines : Option Nat := none
  mostChars : Nat := 131072
  mark : Option Char := none
  ending : Option Raw := none
  skipsEmpty : Bool := false
  shows : Bool := false
  file : Option Raw := none

def size (words : List Raw) : Nat :=
  (words.map (·.length + 1)).foldl (· + ·) 0

/-- Words in groups for one command each: groups and the current one, the last first. -/
def groups (request : Request) : List Item → List (List Raw) → List Raw → Nat → Nat → List (List Raw)
  | [], found, current, _, _ => (if current.isEmpty then found else current.reverse :: found).reverse
  | item :: rest, found, current, lines, room =>
      let isFull := request.mostWords.any (· ≤ current.length) ||
        request.mostLines.any (· ≤ lines) || (room < item.text.length + 1)
      let whole := request.mostChars - size request.command
      if isFull && !current.isEmpty then
        groups request rest (current.reverse :: found) [item.text] (if item.endsLine then 1 else 0)
          (whole - (item.text.length + 1))
      else
        groups request rest found (item.text :: current) (lines + if item.endsLine then 1 else 0)
          (room - (item.text.length + 1))

def replaceAll (wanted value : Raw) : Nat → Raw → Raw
  | 0, text => text
  | _ + 1, [] => []
  | room + 1, char :: rest =>
      if wanted.isPrefixOf (char :: rest) then
        value ++ replaceAll wanted value room ((char :: rest).drop wanted.length)
      else
        char :: replaceAll wanted value room rest

def commandLines (request : Request) (items : List Item) : List (List Raw) :=
  match request.replaced with
  | some wanted =>
      items.map fun item =>
        request.command.head?.toList ++ (request.command.drop 1).map fun word =>
          if wanted.isEmpty then word else replaceAll wanted item.text (word.length + 1) word
  | none =>
      let made := groups request items [] [] 0 (request.mostChars - size request.command)
      let all := if made.isEmpty && !request.skipsEmpty then [[]] else made
      all.map (request.command ++ ·)

/-! ### Running -/

def runLines (run : Runner) (request : Request) : List (List Raw) → Nat → Eval Nat
  | [], status => return status
  | [] :: rest, status => runLines run request rest status
  | (name :: arguments) :: rest, status => do
      if request.shows then
        Eval.say 2 (List.intercalate [' '] ((name :: arguments).map Tool.quotedIfNeeded) ++ ['\n'])
      match ← startableProgram name with
      | .error error => do
          Tool.complainOf name error
          return launchStatus error
      | .ok program => do
          let empty ← Eval.newChannel .null
          let departure ← inProcess do
            if request.file.isNone then Eval.setDescriptor 0 (some empty)
            run (.program program name arguments)
          match departure.signal with
          | some signal => do
              Tool.complain (name ++ ": terminated by signal " ++ Raw.ofNat signal)
              return 125
          | none =>
              if departure.status = 255 then do
                Tool.complain (name ++ ": exited with status 255; aborting")
                return 124
              else
                runLines run request rest (if departure.status = 0 then status else 123)

def usage : Usage :=
  { rules :=
      [option '0' "null", option 'a' "arg-file" .always, option 'd' "delimiter" .always,
        { letter := some 'E', valued := .always }, option 'e' "eof" .attached,
        { letter := some 'I', valued := .always }, option 'i' "replace" .attached,
        { letter := some 'L', valued := .always }, option 'l' "max-lines" .attached,
        option 'n' "max-args" .always, option 'o' "open-tty", option 'P' "max-procs" .always,
        option 'p' "interactive", wordOption "process-slot-var" .always,
        option 'r' "no-run-if-empty", option 's' "max-chars" .always, wordOption "show-limits",
        option 't' "verbose", option 'x' "exit"]
    operandsLast := true }

def number (found : Arguments) (letter : String) : Except Raw (Option Nat) :=
  match found.value? letter with
  | none => .ok none
  | some text =>
      match Raw.nat? text with
      | none => .error ("invalid number \"" ++ text ++ ("\" for -" ++ letter ++ " option").toList)
      | some 0 => .error ("value 0 for -" ++ letter ++ " option should be >= 1").toList
      | some value => .ok (some value)

def request (found : Arguments) : Except Raw Request := do
  let mostWords ← number found "n"
  let mostLines ← number found "L"
  let mostChars ← number found "s"
  let mark ←
    match found.value? "d" with
    | none => pure (if found.has "0" then some '\x00' else none)
    | some text =>
        match separator? text with
        | some char => pure (some char)
        | none => throw ("Invalid input delimiter specification " ++ text)
  let replaced :=
    match found.value? "I" with
    | some text => some text
    | none => if found.has "i" then some ((found.value? "i").getD "\x7b\x7d") else none
  let lines := if found.has "l" then mostLines.or (some 1) else mostLines
  return {
    command := if found.operands.isEmpty then ["echo"] else found.operands
    replaced
    mostWords
    mostLines := lines
    mostChars := mostChars.getD 131072
    mark
    ending := (found.value? "E").or (found.value? "e")
    skipsEmpty := found.has "r"
    shows := found.has "t"
    file := found.value? "a" }

end Gather

open Gather in
def gatherTool (run : Runner) : Program := fun words =>
  withArguments usage words fun found => do
  match Gather.request found with
  | .error message => Tool.misuse message
  | .ok request => do
      match ← Tool.contentOf (request.file.getD ['-']) with
      | .error error => do
          Tool.complainOf ("Cannot open input file " ++ Tool.quoted (request.file.getD [])) error
          return 1
      | .ok content => do
          let (items, fault?) :=
            match request.mark with
            | some mark => (separated mark content, none)
            | none => read request.replaced.isSome none content {}
          let wanted :=
            match request.ending with
            | some ending =>
                if request.mark.isNone && !ending.isEmpty then items.takeWhile (·.text ≠ ending) else items
            | none => items
          match fault? with
          | none => runLines run request (commandLines request wanted) 0
          | some fault => do
              Tool.complain fault.message
              let _ ← runLines run { request with skipsEmpty := true }
                (commandLines { request with skipsEmpty := true } wanted) 0
              return 1

end FixtureRunner.Shell
