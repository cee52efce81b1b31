/-
Editing streams of lines with a script.
-/

import FixtureRunner.Edit.Parser
import FixtureRunner.Tool.Contents

namespace FixtureRunner.Tool

open Shell (Eval Stream)
open Edit (Action Address Command Pattern Script Scope)

/-! ### State -/

inductive Appended where
  | text (text : Raw)
  | file (name : Raw)

structure EditOutput where
  name : Raw
  channel : Option Nat
  isOpen : Bool := false

structure EditMode where
  script : Script
  isQuiet : Bool
  mark : Char
  isSeparate : Bool
  inPlace : Option Raw
  width : Nat
  execute : Raw → Eval Raw

structure Editor where
  pattern : Raw := []
  isEnded : Bool := true
  hold : Raw := []
  isHoldEnded : Bool := true
  number : Nat := 0
  lines : List Raw := []
  name : Raw := ['-']
  files : List Raw
  isReplaced : Bool := false
  appended : List Appended := []
  /-- The ranges that have been entered, by the index of their command, with their last line. -/
  ranges : List (Nat × Option Nat) := []
  used : Option Pattern := none
  written : List Raw := []
  isOpen : Bool := false
  aside : List Raw := []
  outputs : List EditOutput := []
  readers : List (Raw × List Raw) := []
  status : Nat := 0
  input : Option (Nat × Nat) := none
  target : Option Raw := none

namespace Editor

def put (editor : Editor) (mode : EditMode) (text : Raw) (isEnded : Bool) : Editor :=
  let lead : List Raw := if editor.isOpen then [[mark]] else []
  let tail : List Raw := if isEnded then [[mark]] else []
  { editor with written := tail ++ text :: lead ++ editor.written, isOpen := !isEnded }
where
  mark := mode.mark

def putRaw (editor : Editor) (mode : EditMode) (text : Raw) : Editor :=
  { editor.put mode text false with isOpen := false }

def putTo (editor : Editor) (mode : EditMode) (name text : Raw) (isEnded : Bool) : Eval Editor := do
  match editor.outputs.find? (·.name = name) with
  | none => return editor
  | some output => do
      let line := (if output.isOpen then [mode.mark] else []) ++ text ++
        (if isEnded then [mode.mark] else [])
      let outputs := editor.outputs.map fun held =>
        if held.name = name then { held with isOpen := !isEnded } else held
      match output.channel with
      | some channel => do
          let _ ← Eval.writeChannel channel (Raw.toBytes line)
          return { editor with outputs }
      | none =>
          return if editor.target.isSome then { editor with outputs, aside := line :: editor.aside }
            else { editor with outputs, written := line :: editor.written }

def flush (editor : Editor) (mode : EditMode) : Eval Editor := do
  let flushed ← editor.appended.foldlM (fun editor appended => do
    match appended with
    | .text text => return editor.putRaw mode text
    | .file name => do
        match ← Eval.readFile name with
        | .ok content => return if content.isEmpty then editor else editor.putRaw mode content
        | .error _ => return editor) { editor with appended := [] }
  return flushed

def finish (editor : Editor) (mode : EditMode) : Eval Editor := do
  let text := editor.written.reverse.flatten
  match editor.target, mode.inPlace with
  | some name, some suffix => do
      if !suffix.isEmpty then
        let kept :=
          if suffix.contains '*' then
            let base := suffix.flatMap fun char => if char = '*' then baseName name else [char]
            if base.contains '/' || !name.contains '/' then base else joinPath (folderName name) base
          else
            name ++ suffix
        match ← Eval.readFile name with
        | .ok content => let _ ← Eval.writeFile kept content
        | .error _ => pure ()
      let _ ← Eval.writeFile name text
      return { editor with written := editor.aside, aside := [], isOpen := false, target := none }
  | _, _ => return editor

def release (editor : Editor) : Eval Editor := do
  Eval.say 1 (editor.written.reverse.flatten)
  return { editor with written := [] }

def openNext (mode : EditMode) : Nat → Editor → Eval Editor
  | 0, editor => return editor
  | room + 1, editor =>
      match editor.files with
      | [] => return editor
      | name :: files => do
          let finished ← ({ editor with files }).finish mode
          match ← inputOf name with
          | .error error => do
              complainOf ("can't read " ++ name) error
              openNext mode room { finished with status := 2 }
          | .ok number => do
              match ← Eval.remainingFrom number Stream.supplyBound with
              | .error error => do
                  if mode.inPlace.isSome then
                    complain ("couldn't edit " ++ name ++ ": not a regular file")
                    openNext mode room { finished with status := 4 }
                  else do
                    complainOf ("read error on " ++ name) error
                    throw (.exit 4)
              | .ok bytes => do
                  let text := Raw.ofBytes bytes
                  let opened : Editor :=
                    { finished with
                      lines := piecesOf mode.mark text
                      name
                      number := if mode.isSeparate then 0 else finished.number
                      ranges := if mode.isSeparate then [] else finished.ranges
                      target := if mode.inPlace.isSome then some name else none
                      input := if name = ['-'] then some (number, bytes.length) else finished.input }
                  if opened.lines.isEmpty then openNext mode room opened else return opened

def isLast (editor : Editor) (mode : EditMode) : Eval (Bool × Editor) := do
  if !editor.lines.isEmpty then
    return (false, editor)
  else if mode.isSeparate || editor.files.isEmpty then
    return (true, editor)
  else
    let opened ← openNext mode editor.files.length { editor with name := editor.name }
    return (opened.lines.isEmpty, { opened with name := editor.name })

def hasMore (editor : Editor) (mode : EditMode) : Eval (Bool × Editor) := do
  if !editor.lines.isEmpty then
    return (true, editor)
  else
    let opened ← openNext mode editor.files.length editor
    return (!opened.lines.isEmpty, opened)

def readLine (editor : Editor) (mode : EditMode) (appends : Bool) : Eval Editor := do
  let flushed ← editor.flush mode
  let (_, ready) ← flushed.hasMore mode
  match ready.lines with
  | [] => return ready
  | piece :: lines =>
      let body := bodyOf mode.mark piece
      return { ready with
        pattern := if appends then ready.pattern ++ mode.mark :: body else body
        isEnded := body.length < piece.length
        number := ready.number + 1
        isReplaced := false
        lines }

/-! ### Scopes -/

def expressionOf (editor : Editor) (pattern : Pattern) : Eval (Search.Compiled × Editor) := do
  match pattern.compiled with
  | some compiled => return (compiled, { editor with used := some pattern })
  | none =>
      match editor.used.bind (·.compiled) with
      | some compiled => return (compiled, editor)
      | none => do
          complain "-e expression #1, char 0: no previous regular expression"
          throw (.exit 1)

def matchesAddress (editor : Editor) (mode : EditMode) (address : Address) : Eval (Bool × Editor) := do
  match address with
  | .line number => return (editor.number = number, editor)
  | .step first step => return (first ≤ editor.number && (editor.number - first) % step = 0, editor)
  | .last => editor.isLast mode
  | .pattern pattern => do
      let (compiled, after) ← editor.expressionOf pattern
      let flags := if pattern.compiled.isSome then pattern else editor.used.getD pattern
      let field : Search.Field :=
        { text := editor.pattern.toArray, ignoreCase := flags.ignoresCase, multiline := flags.multiline }
      return ((Search.find? field compiled false 0).isSome, after)

def leaveRange (editor : Editor) (index : Nat) : Editor :=
  { editor with ranges := editor.ranges.filter (·.1 ≠ index) }

def enterRange (editor : Editor) (index : Nat) (last : Option Nat) : Editor :=
  { editor.leaveRange index with ranges := (index, last) :: (editor.leaveRange index).ranges }

def isInScope (editor : Editor) (mode : EditMode) (index : Nat) (scope : Scope) : Eval (Bool × Editor) := do
  match scope.first, scope.stop with
  | none, _ => return (true, editor)
  | some first, none => editor.matchesAddress mode first
  | some first, some stop => do
      let isZero := (match first with
        | .line 0 => true
        | _ => false)
      let entered : Option (Option Nat) :=
        match editor.ranges.lookup index with
        | some last => some last
        | none => if isZero && editor.number = 1 then some none else none
      match entered with
      | none => do
          let (isFirst, after) ← editor.matchesAddress mode first
          if !isFirst then
            return (false, after)
          else
            match stop with
            | .address (.line number) =>
                return (true, if number ≤ after.number then after
                  else after.enterRange index (some number))
            | .after count =>
                return (true, if count = 0 then after
                  else after.enterRange index (some (after.number + count)))
            | .multiple factor =>
                return (true, if factor = 0 then after
                  else after.enterRange index (some (after.number + factor - after.number % factor)))
            | .address _ => return (true, after.enterRange index none)
      | some (some last) =>
          let left := if last ≤ editor.number then editor.leaveRange index else editor
          return (editor.number ≤ last, left)
      | some none => do
          match stop with
          | .address address => do
              let (isStop, after) ← editor.matchesAddress mode address
              return (true, if isStop then after.leaveRange index else after.enterRange index none)
          | _ => return (true, editor)

end Editor

/-! ### Running -/

inductive CycleEnd where
  | done
  | deleted
  | again
  | quit (status : Nat) (prints : Bool)

def firstLine (mark : Char) (text : Raw) : Raw :=
  text.takeWhile (· ≠ mark)

def Editor.act (editor : Editor) (mode : EditMode) (index : Nat) (action : Action) : Eval Editor := do
  match action with
  | .substitute substitution => do
      let (compiled, used) ← editor.expressionOf substitution.pattern
      let flagged := if substitution.pattern.compiled.isSome then substitution
        else
          let held := editor.used.getD substitution.pattern
          { substitution with
            pattern :=
              { substitution.pattern with
                ignoresCase := substitution.pattern.ignoresCase || held.ignoresCase
                multiline := substitution.pattern.multiline || held.multiline } }
      match flagged.applied? compiled used.pattern with
      | none => return used
      | some text => do
          let changed ←
            if substitution.executes then do
              let ready ← if used.target.isSome then pure used else used.release
              let result ← mode.execute text
              pure { ready with pattern := bodyOf mode.mark result, isEnded := true, isReplaced := true }
            else
              pure { used with pattern := text, isReplaced := true }
          let text := changed.pattern
          let printed := if substitution.prints then changed.put mode text changed.isEnded else changed
          match substitution.file with
          | none => return printed
          | some name => printed.putTo mode name text printed.isEnded
  | .exchangeChars table =>
      return { editor with pattern := editor.pattern.map fun char => (table.lookup char).getD char }
  | .append text => return { editor with appended := editor.appended ++ [.text text] }
  | .insert text => return editor.putRaw mode text
  | .change text =>
      return if (editor.ranges.lookup index).isSome then editor else editor.putRaw mode text
  | .appendFile name => return { editor with appended := editor.appended ++ [.file name] }
  | .appendLine name => do
      let lines ← match editor.readers.lookup name with
        | some lines => pure lines
        | none => do
            match ← Eval.readFile name with
            | .ok content => pure (piecesOf mode.mark content)
            | .error _ => pure []
      let kept := (name, lines.drop 1) :: editor.readers.filter (·.1 ≠ name)
      match lines with
      | [] => return { editor with readers := kept }
      | line :: _ =>
          return { editor with readers := kept, appended := editor.appended ++ [.text line] }
  | .write name => editor.putTo mode name editor.pattern editor.isEnded
  | .writeFirst name => editor.putTo mode name (firstLine mode.mark editor.pattern) true
  | .print => return editor.put mode editor.pattern editor.isEnded
  | .printFirst =>
      return editor.put mode (firstLine mode.mark editor.pattern) true
  | .hold => return { editor with hold := editor.pattern, isHoldEnded := editor.isEnded }
  | .holdAppend =>
      return { editor with
        hold := editor.hold ++ mode.mark :: editor.pattern
        isHoldEnded := editor.isEnded }
  | .get => return { editor with pattern := editor.hold, isEnded := editor.isHoldEnded }
  | .getAppend =>
      return { editor with
        pattern := editor.pattern ++ mode.mark :: editor.hold
        isEnded := editor.isHoldEnded }
  | .exchange =>
      return { editor with
        pattern := editor.hold
        isEnded := editor.isHoldEnded
        hold := editor.pattern
        isHoldEnded := editor.isEnded }
  | .execute command => do
      let ready ← if editor.target.isSome then pure editor else editor.release
      match command with
      | some text => return ready.putRaw mode (← mode.execute text)
      | none => do
          let result ← mode.execute ready.pattern
          return { ready with pattern := bodyOf mode.mark result, isEnded := true }
  | .lineNumber => return editor.putRaw mode (Raw.ofNat editor.number ++ ['\n'])
  | .list width => return editor.putRaw mode (Edit.listed (width.getD mode.width) editor.pattern)
  | .clear => return { editor with pattern := [] }
  | .fileName => return editor.putRaw mode (editor.name ++ ['\n'])
  | _ => return editor

/-- Runs the commands from an index on; `room` bounds their number. -/
def runCommands (mode : EditMode) : Nat → Nat → Editor → Eval (CycleEnd × Editor)
  | 0, _, editor => return (.done, editor)
  | room + 1, index, editor =>
      match mode.script.commands[index]? with
      | none => return (.done, editor)
      | some command => do
          Eval.step
          let (matches_, ready) ← editor.isInScope mode index command.scope
          if matches_ = command.scope.negated then
            match command.action with
            | .block stop => runCommands mode room (stop + 1) ready
            | _ => runCommands mode room (index + 1) ready
          else
            match command.action with
            | .branch when target =>
                let isTaken :=
                  match when with
                  | .always => true
                  | .replaced => ready.isReplaced
                  | .notReplaced => !ready.isReplaced
                let after := if when = .always then ready else { ready with isReplaced := false }
                if isTaken then runCommands mode room target after
                else runCommands mode room (index + 1) after
            | .delete => return (.deleted, ready)
            | .change _ => return (.deleted, ← ready.act mode index command.action)
            | .deleteFirst =>
                if ready.pattern.contains mode.mark then
                  let rest := (ready.pattern.dropWhile (· ≠ mode.mark)).drop 1
                  return (.again, { ready with pattern := rest })
                else
                  return (.deleted, ready)
            | .quit status => return (.quit status true, ready)
            | .quitSilently status => return (.quit status false, ready)
            | .next => do
                let (hasMore, looked) ← ready.hasMore mode
                if hasMore then
                  let printed :=
                    if mode.isQuiet then looked else looked.put mode looked.pattern looked.isEnded
                  runCommands mode room (index + 1) (← printed.readLine mode false)
                else
                  return (.done, looked)
            | .nextAppend => do
                let (hasMore, looked) ← ready.hasMore mode
                if hasMore then
                  runCommands mode room (index + 1) (← looked.readLine mode true)
                else
                  return (.done, looked)
            | action => do
                runCommands mode room (index + 1) (← ready.act mode index action)

def runCycles (mode : EditMode) : Nat → Bool → Editor → Eval (Nat × Editor)
  | 0, _, editor => return (editor.status, editor)
  | room + 1, reads, editor => do
      let (hasMore, looked) ← if reads then editor.hasMore mode else pure (true, editor)
      if !hasMore then
        return (looked.status, ← looked.flush mode)
      else
        let ready ← if reads then looked.readLine mode false else looked.flush mode
        let (cycleEnd, after) ← runCommands mode (Nat.pow 2 40) 0 ready
        let printed :=
          if mode.isQuiet then after else after.put mode after.pattern after.isEnded
        match cycleEnd with
        | .done => runCycles mode room true (← printed.flush mode)
        | .deleted => runCycles mode room true (← after.flush mode)
        | .again => runCycles mode room false after
        | .quit status prints => do
            let left := if prints then printed else after
            return (if status = 0 then after.status else status, ← left.flush mode)

/-! ### The tool -/

structure ScriptSource where
  file : Option Raw
  text : Raw

def faultPlace (sources : List ScriptSource) (consumed : Nat) (isStart : Bool) : Raw :=
  let rec go : List ScriptSource → Nat → Nat → Raw
    | [], _, _ => []
    | source :: rest, consumed, expression =>
        let expression := if source.file.isNone then expression + 1 else expression
        if consumed ≤ source.text.length + 1 || rest.isEmpty then
          match source.file with
          | some name =>
              let read := source.text.take (consumed - 1)
              "file " ++ name ++ " line " ++ Raw.ofNat ((read.filter (· = '\n')).length + 1)
          | none =>
              "-e expression #" ++ Raw.ofNat expression ++ ", char " ++
                Raw.ofNat (if isStart then 0 else min consumed source.text.length)
        else
          go rest (consumed - (source.text.length + 1)) expression
  go sources consumed 0

def complainOfScript (sources : List ScriptSource) (refusal : Edit.Refusal) : Eval Unit :=
  match refusal.fault with
  | .unknownLabel _ => complain refusal.fault.message
  | .unmatchedOpening =>
      complain (faultPlace sources refusal.consumed true ++ ": " ++ refusal.fault.message)
  | _ => complain (faultPlace sources refusal.consumed false ++ ": " ++ refusal.fault.message)

def editRules : List OptionRule :=
  [option 'n' "quiet", option 'n' "silent", option 'e' "expression" .always, option 'f' "file" .always,
    option 'E' "regexp-extended", option 'r' "regexp-extended", option 'i' "in-place" .attached,
    option 'l' "line-length" .always, wordOption "posix", wordOption "debug", wordOption "sandbox",
    wordOption "follow-symlinks", option 's' "separate", option 'u' "unbuffered", option 'z' "null-data",
    option 'b' "binary"]

def editHint : Eval Unit := do
  Eval.say 2 ("Usage: " ++ (← Eval.process).name ++
    " [OPTION]... \x7bscript-only-if-no-other-script\x7d [input-file]...\n\n")

def scriptSources : List (String × Option Raw) → List ScriptSource → Eval (Option (List ScriptSource))
  | [], found => return some found.reverse
  | (key, value) :: rest, found => do
      let text := value.getD []
      if key = "e" then
        scriptSources rest ({ file := none, text } :: found)
      else if key = "f" then
        match ← contentOf text with
        | .error error => do
            complainOf ("couldn't open file " ++ text) error
            return none
        | .ok content => scriptSources rest ({ file := some text, text := bodyOf '\n' content } :: found)
      else
        scriptSources rest found

def openOutputs : List Raw → List EditOutput → Eval (Option (List EditOutput))
  | [], found => return some found
  | name :: rest, found => do
      if found.any (·.name = name) then
        openOutputs rest found
      else if name = "/dev/stdout" then
        openOutputs rest ({ name, channel := none } :: found)
      else if name = "/dev/stderr" then
        match ← Eval.channelOf 2 with
        | some channel => openOutputs rest ({ name, channel := some channel } :: found)
        | none => openOutputs rest found
      else
        match ← Eval.openFile .write name with
        | .error error => do
            complainOf ("couldn't open file " ++ name) error
            return none
        | .ok channel => openOutputs rest ({ name, channel := some channel } :: found)

def refusalStatus : Edit.Fault → Nat
  | .unknownLabel _ => 4
  | _ => 1

def editTool (execute : Raw → Eval Raw) : Program := fun words =>
  withArguments { rules := editRules, hint := editHint } words fun found => do
  let given := found.options.filter fun held => held.1 = "e" || held.1 = "f"
  match given, found.operands with
  | [], [] => do
      editHint
      return 1
  | _, _ => do
      let (options, operands) : List (String × Option Raw) × List Raw :=
        match given, found.operands with
        | [], script :: operands => ([("e", some script)], operands)
        | _, operands => (given, operands)
      match ← scriptSources options [] with
      | none => return 1
      | some sources => do
          let text := List.intercalate ['\n'] (sources.map (·.text))
          let dialect : Edit.Dialect :=
            { extended := found.has "E" || found.has "r", isSandboxed := found.has "sandbox" }
          match Script.read dialect text with
          | .error refusal => do
              complainOfScript sources refusal
              return refusalStatus refusal.fault
          | .ok script => do
              let inPlace := if found.has "i" then some ((found.value? "i").getD []) else none
              if inPlace.isSome && operands.isEmpty then
                fail "no input files"
              else
                match ← openOutputs script.files [] with
                | none => return 4
                | some outputs => do
                    let mode : EditMode :=
                      { script
                        isQuiet := found.has "n" || script.isQuiet
                        mark := found.mark
                        isSeparate := found.has "s" || inPlace.isSome
                        inPlace
                        width := ((found.value? "l").bind Raw.nat?).getD 70
                        execute }
                    let start : Editor :=
                      { files := if operands.isEmpty then [['-']] else operands, outputs }
                    let (status, after) ← runCycles mode (Nat.pow 2 40) true start
                    match after.input with
                    | none => pure ()
                    | some (number, size) => do
                        let left := (after.lines.map List.length).foldl (· + ·) 0
                        match ← Eval.channel number with
                        | .file _ _ _ => Eval.consumeFrom number (size - left)
                        | _ => Eval.consumeFrom number size
                    let finished ← after.finish mode
                    let shown ← output finished.written.reverse.flatten status
                    return max status shown

end FixtureRunner.Tool
