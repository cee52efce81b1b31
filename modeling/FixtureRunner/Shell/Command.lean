/-
Simple commands: functions, the shell's own commands and programs, with the variables
and redirections that belong to them.
-/

import FixtureRunner.Shell.Builtin
import FixtureRunner.Shell.Job
import FixtureRunner.Shell.Parser

namespace FixtureRunner.Shell

open Tool (Program)

/-! ### Looking programs up -/

/-- The place of a name in a table with so many places. -/
def bucket (size : Nat) (name : Raw) : Nat :=
  (name.foldl (fun sum char => sum + char.toNat) ((name.headD ' ').toNat * 16)) % size

def searchPath : Eval Raw :=
  return (← Eval.lookup? "PATH").getD []

def programFault (name : Raw) (error : SystemError) : Raw :=
  name ++ ": " ++
    (if error = .missing || error = .notFolder then "not found".toList else error.reason.toList)

def startStatus (error : SystemError) : Nat :=
  if error = .missing || error = .notFolder || error = .tooManyLinks || error = .nameTooLong then 127 else 126

def track (name : Raw) (program : FoundProgram) : Eval Unit := do
  unless name.contains '/' do
    Eval.modifyProcess fun process =>
      if (process.tracked.lookup name).isSome then process
      else { process with tracked := (name, program.path) :: process.tracked }

def locate (path name : Raw) : Eval (Except Nat FoundProgram) := do
  let refused (error : SystemError) (status : Nat) : Eval (Except Nat FoundProgram) := do
    Eval.complain (programFault name error)
    return .error status
  let disk ← Eval.disk
  if name.isEmpty then
    refused .denied 127
  else
    match findProgram disk path name with
    | .error error => refused error (if name.contains '/' then startStatus error else 127)
    | .ok program => do
        track name program
        match program.check disk with
        | .error error => refused error (startStatus error)
        | .ok _ => return .ok program

def standingNames : List String :=
  ["HISTSIZE", "IFS", "LINENO", "MAIL", "MAILPATH", "OPTIND", "PATH", "PS1", "PS2", "PS4", "TERM"]

def variablePlaces : Nat := 39

def inherited (bindings : List Variable) : List Variable :=
  let key (held : Variable) : Nat :=
    2 * bucket variablePlaces held.name + (if standingNames.any (·.toList = held.name) then 0 else 1)
  let passed := bindings.reverse.filter fun held => held.exported && held.value.isSome
  (passed.mergeSort fun left right => key left ≤ key right).reverse

def become (run : Runner) (program : FoundProgram) (name : Raw) (arguments : List Raw) : Eval Nat := do
  Eval.modifyProcess fun process => { process with bindings := inherited process.bindings }
  run (.program program name arguments)

/-! ### Describing commands -/

def runningNames : List String :=
  [".", "command", "eval", "exec", "hash", "kill", "type", "wait"]

def isBuiltin (name : Raw) : Bool :=
  runningNames.any (·.toList = name) || (plainBuiltin? name).isSome

def isSpecial (name : Raw) : Bool :=
  specialBuiltins.any (·.toList = name)

def describe (inSentence : Bool) (path name : Raw) : Eval Nat := do
  let process ← Eval.process
  let told (sentence : String) : Eval Nat :=
    saying (name ++ (if inSentence then sentence.toList else []) ++ ['\n'])
  if reservedWords.any (·.toList = name) then
    told " is a shell keyword"
  else
    match process.aliases.lookup name with
    | some value =>
        saying <|
          if inSentence then name ++ " is an alias for " ++ value ++ ['\n']
          else "alias " ++ name ++ '=' :: singleQuoted value ++ ['\n']
    | none =>
        if (process.functions.lookup name).isSome then
          told " is a shell function"
        else if isSpecial name then
          told " is a special shell builtin"
        else if isBuiltin name then
          told " is a shell builtin"
        else do
          let disk ← Eval.disk
          let found : Option Raw :=
            if name.contains '/' then
              if (disk.find (Eval.pathOf name)).toOption.isSome then some name else none
            else
              (findProgram disk path name).toOption.map (·.path)
          match found with
          | some place =>
              let lead : Raw :=
                if !inSentence then []
                else if (process.tracked.lookup name).isSome then name ++ " is a tracked alias for "
                else name ++ " is "
              saying (lead ++ place ++ ['\n'])
          | none =>
              if inSentence then saying (name ++ ": not found\n") 127 else return 127

def commandBuiltin : Program := fun words => do
  let found ← optionWords "pvV" "" words
  let asked := (found.options.filter (·.1 ≠ 'p')).map (·.1)
  let path ← if found.has 'p' then pure defaultSearchPath else searchPath
  match found.operands with
  | name :: _ => if asked.isEmpty then return 0 else describe (asked.contains 'V') path name
  | [] => return 0

def trackedBuiltin : Program := fun words => do
  let found ← optionWords "r" "" words
  if found.has 'r' then do
    Eval.modifyProcess fun process => { process with tracked := [] }
    return 0
  else if found.operands.isEmpty then do
    let tracked := (← Eval.process).tracked.reverse
    let ordered := tracked.mergeSort fun left right => bucket 31 left.1 ≤ bucket 31 right.1
    saying (ordered.flatMap fun (_, path) => path ++ ['\n'])
  else
    Tool.onEach found.operands fun name => do
      if isBuiltin name || ((← Eval.process).functions.lookup name).isSome then
        return 0
      else
        match ← locate (← searchPath) name with
        | .ok _ => return 0
        | .error _ => return 1

/-! ### Reading other texts -/

def scriptText (file : Raw) : Eval (Except SystemError Raw) := do
  match ← Eval.readFile file with
  | .ok text => return .ok text
  | .error error => return if error = .isFolder then .ok [] else .error error

/-- Reads a text in the current process; the lines of the script count on behind it. -/
def readText (run : Runner) (text : Raw) : Eval Nat := do
  let before ← Eval.process
  Eval.ensuring (run (.source { rest := text } false)) (Eval.modifyProcess fun process =>
    { process with line := before.line, lastLine := before.lastLine })

def evalBuiltin (run : Runner) : Program := fun words =>
  if words.isEmpty then return 0 else readText run (List.intercalate [' '] words)

def readableOnPath? (disk : Disk) (path name : Raw) : Option Raw :=
  (Text.fields ':' path).findSome? fun folder =>
    let candidate := if folder.isEmpty then name else Tool.joinPath folder name
    match disk.find (Eval.pathOf candidate) with
    | .ok (_, .file _ _) => some candidate
    | _ => none

def dotBuiltin (run : Runner) : Program := fun words => do
  let found ← optionWords "" "" words
  match found.operands with
  | [] => return 0
  | file :: _ => do
      let place ←
        if file.contains '/' then
          pure file
        else
          match readableOnPath? (← Eval.disk) (← searchPath) file with
          | some place => pure place
          | none => Eval.abort (file ++ ": not found")
      match ← scriptText place with
      | .error error => Eval.abort (openFault .read place error)
      | .ok text => do
          Eval.modifyProcess fun process =>
            { process with reader := place ++ ": " }
          let isTesting := (← Eval.process).isTesting
          Eval.modifyProcess fun process => { process with isTesting := false }
          Eval.ensuring
            (tryCatch (readText run text) fun stop =>
              match stop with
              | .return status => pure status
              | other => throw other)
            (Eval.modifyProcess fun process => { process with isTesting })

def execBuiltin (run : Runner) : Program := fun words => do
  let found ← optionWords "" "" words
  match found.operands with
  | [] => return 0
  | name :: arguments => do
      let path ← searchPath
      match findProgram (← Eval.disk) path name, name with
      | _, [] => do
          Eval.complain (programFault name .denied)
          throw (.exit 126)
      | .error error, _ => do
          Eval.complain (programFault name error)
          throw (.exit (startStatus error))
      | .ok _, _ =>
          match ← locate path name with
          | .error status => throw (.exit status)
          | .ok program => do
              let status ← become run program name arguments
              Eval.modifyProcess fun process => { process with traps := [] }
              throw (.exit status)

def builtin? (run : Runner) (name : Raw) : Option Program :=
  match String.ofList name with
  | "." => some (dotBuiltin run)
  | "command" => some commandBuiltin
  | "eval" => some (evalBuiltin run)
  | "exec" => some (execBuiltin run)
  | "hash" => some trackedBuiltin
  | "kill" => some killBuiltin
  | "type" => some fun words => do Tool.onEach words (describe true (← searchPath))
  | "wait" => some (waitBuiltin run)
  | _ => plainBuiltin? name

/-- Runs one of the shell's own commands.  A fault ends the shell only if the command is
`fatal`. -/
def runBuiltin (action : Program) (fatal : Bool) (name : Raw) (arguments : List Raw) : Eval Nat := do
  let reader := (← Eval.process).reader
  Eval.modifyProcess fun process =>
    { process with reader := name ++ ": ", outputRefused := false }
  Eval.ensuring (do
      let status ← tryCatch (action arguments) fun stop =>
        if stop = .fault && !fatal then pure 2 else throw stop
      if (← Eval.process).outputRefused then do
        Eval.modifyProcess fun process => { process with outputRefused := false, reader := name ++ ": " }
        Eval.complain (name ++ ": I/O error")
        return if status % 2 = 0 then status + 1 else status
      else
        return status)
    (Eval.modifyProcess fun process => { process with reader })

/-! ### Functions -/

def callFunction (run : Runner) (body : Script) (arguments : List Raw) : Eval Nat := do
  let before ← Eval.process
  Eval.modifyProcess fun process =>
    { process with arguments, hidden := some [], loops := 0, optionIndex := 1, optionOffset := none }
  Eval.ensuring
    (tryCatch (run (.script body false)) fun stop =>
      match stop with
      | .return status => pure status
      | other => throw other)
    (Eval.modifyProcess fun process =>
      { process with
        arguments := before.arguments
        hidden := before.hidden
        loops := before.loops
        optionIndex := before.optionIndex
        optionOffset := before.optionOffset
        bindings := unhide (process.hidden.getD []) process.bindings })

/-! ### Words -/

def firstFields (capture : Capturing) : List Word → Eval (List Raw × List Word)
  | [] => return ([], [])
  | word :: rest => do
      match ← expandWord capture word with
      | [] => firstFields capture rest
      | fields => return (fields, rest)

structure Chosen where
  shown : List Raw
  fields : List Raw
  words : List Word
  usesFunctions : Bool := true
  usesStandard : Bool := false

def Chosen.advance (capture : Capturing) (chosen : Chosen) : Eval Chosen := do
  match chosen.fields with
  | _ :: second :: rest => return { chosen with fields := second :: rest }
  | _ => do
      let (fields, words) ← firstFields capture chosen.words
      return { chosen with shown := chosen.shown ++ fields, fields, words }

def Chosen.bare? (capture : Capturing) : Nat → Chosen → Eval (Option Chosen)
  | 0, _ => return none
  | room + 1, chosen => do
      let next ← chosen.advance capture
      match next.fields with
      | [] => return none
      | ['-', '-'] :: _ => do
          let behind ← next.advance capture
          return if behind.fields.isEmpty then none else some behind
      | ('-' :: letter :: letters) :: _ =>
          if (letter :: letters).all (· = 'p') then
            Chosen.bare? capture room { next with usesStandard := true }
          else
            return none
      | _ => return some next

inductive Target where
  | nothing
  | function (body : Script)
  | builtin (action : Program) (fatal : Bool)
  | program

structure Choice where
  chosen : Chosen
  target : Target
  hasOwnVariables : Bool

def choose (run : Runner) (capture : Capturing) (wasCommand : Bool) : Nat → Chosen → Eval Choice
  | 0, chosen => return { chosen, target := .nothing, hasOwnVariables := false }
  | room + 1, chosen => do
      match chosen.fields with
      | [] => return { chosen, target := .nothing, hasOwnVariables := false }
      | name :: _ => do
          let functions := (← Eval.process).functions
          match if chosen.usesFunctions then functions.lookup name else none with
          | some body => return { chosen, target := .function body, hasOwnVariables := true }
          | none =>
              match builtin? run name with
              | none => return { chosen, target := .program, hasOwnVariables := true }
              | some action => do
                  let fatal := isSpecial name && !wasCommand
                  let plain : Choice :=
                    { chosen, target := .builtin action fatal, hasOwnVariables := !fatal }
                  if name = "command" then
                    match ← Chosen.bare? capture (room + 1) chosen with
                    | some inner => choose run capture true room { inner with usesFunctions := false }
                    | none => return plain
                  else
                    return plain

/-- The fields of the words that are left; those of the form `name=value` are not cut if
the command assigns. -/
def remainingFields (capture : Capturing) (assigns : Bool) (words : List Word) : Eval (List Raw) := do
  let found ← words.foldlM (fun found word => do
    match if assigns then Parser.assignment? word else none with
    | some (name, value) => return (name ++ '=' :: (← expandValue capture value)) :: found
    | none => return (← expandWord capture word).reverse ++ found) []
  return found.reverse

/-! ### Assignments and traces -/

def assignEach (capture : Capturing) (isOwn isExported : Bool) (assignments : List (Raw × Word)) :
    Eval (List Raw) :=
  assignments.mapM fun (name, word) => do
    let value ← expandValue capture word
    Eval.assign name value
    if isOwn || isExported then Eval.exportName name
    return name ++ '=' :: value

def traceLead (capture : Capturing) : Eval Raw := do
  let text := (← Eval.lookup? "PS4").getD []
  if text.any fun char => char = '$' || char = '\x60' || char = '\\' then
    match ((rulesOfDepth textBound).parts .document).run { rest := text } with
    | .ok (parts, _) => do
        let switches := (← Eval.process).switches
        Eval.modifyProcess fun process => { process with switches := switches.filter (· ≠ .trace) }
        Eval.ensuring (expandText capture parts)
          (Eval.modifyProcess fun process => { process with switches })
    | .error _ => return text
  else
    return text

def trace (capture : Capturing) (messages : Option Nat) (texts : List Raw) : Eval Unit := do
  if (← Eval.process).has .trace then
    let lead ← traceLead capture
    match messages with
    | some channel => do
        let _ ← Eval.writeChannel channel
          (Raw.toBytes (lead ++ List.intercalate [' '] texts ++ ['\n']))
    | none => return ()

/-! ### Running -/

def runTarget (run : Runner) (ends : Bool) (choice : Choice) (fields : List Raw) : Eval Nat := do
  match choice.target, fields with
  | .function body, _ :: arguments => callFunction run body arguments
  | .builtin action fatal, name :: arguments => runBuiltin action fatal name arguments
  | .program, name :: arguments => do
      let path ← if choice.chosen.usesStandard then pure defaultSearchPath else searchPath
      match ← locate path name with
      | .error status => return status
      | .ok program => do
          if ends && (← Eval.process).traps.all (·.2.isEmpty) then do
            let status ← become run program name arguments
            throw (.exit status)
          else
            inChild (become run program name arguments)
  | _, _ => return (← Eval.process).substituted

def withOwnVariables (isOwn : Bool) (names : List Raw) (body : Eval Nat) : Eval Nat := do
  if isOwn && !names.isEmpty then do
    let before ← names.mapM fun name => do
      let held ← Eval.bindingOf? name
      return (name, held)
    Eval.ensuring body (Eval.modifyProcess fun process =>
      { process with bindings := unhide before.reverse process.bindings })
  else
    body

def runSimple (run : Runner) (ends : Bool) (line : Nat) (assignments : List (Raw × Word))
    (words : List Word) (redirections : List Redirection) : Eval Nat := do
  Eval.step
  Eval.modifyProcess fun process => { process with line, substituted := 0 }
  let capture := capturing run
  let (first, rest) ← firstFields capture words
  let choice ← choose run capture false (words.length + first.length + 1)
    { shown := first, fields := first, words := rest }
  let name := choice.chosen.fields.headD []
  let isBuiltinTarget := choice.target matches .builtin _ _
  let assigns := isBuiltinTarget && assigningBuiltins.any (·.toList = name)
  let others ← remainingFields capture assigns choice.chosen.words
  let fields := choice.chosen.fields ++ others
  let isExec := isBuiltinTarget && name = "exec"
  let messages ← Eval.channelOf 2
  let leadings ← redirections.mapM (leading run)
  let keeping (body : Eval Nat) : Eval Nat :=
    if redirections.isEmpty || isExec then body else keepingDescriptors body
  keeping do
    if !redirections.isEmpty && !(← lead run leadings) then
      match choice.target with
      | .builtin _ true => throw .fault
      | _ => return 2
    else
      withOwnVariables choice.hasOwnVariables (assignments.map (·.1)) do
        let texts ← assignEach capture choice.hasOwnVariables (isExec && 1 < fields.length) assignments
        trace capture messages (texts ++ choice.chosen.shown ++ others)
        runTarget run ends choice fields

end FixtureRunner.Shell
