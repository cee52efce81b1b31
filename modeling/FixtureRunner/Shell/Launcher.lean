/-
Tools that start another program: with other variables, with a limit of time, or with
something about it changed that does not show.
-/

import FixtureRunner.Shell.Redirect
import FixtureRunner.Shell.Variables

namespace FixtureRunner.Shell

open Tool (Program Arguments Usage option wordOption withArguments)

def plainSearchPath : Raw := "/bin:/usr/bin"

def startableProgram (name : Raw) : Eval (Except SystemError FoundProgram) := do
  let path := (← Eval.lookup? "PATH").getD plainSearchPath
  let disk ← Eval.disk
  return do
    let program ← findProgram disk path name
    program.check disk
    return program

def launchStatus (error : SystemError) : Nat :=
  if error = .missing then 127 else 126

def launch (run : Runner) (lead : Raw → Raw) : List Raw → Eval Nat
  | [] => return 0
  | name :: arguments => do
      match ← startableProgram name with
      | .ok program => run (.program program name arguments)
      | .error error => do
          Tool.complainOf (lead name) error
          return launchStatus error

def failedToRun (name : Raw) : Raw :=
  "failed to run command " ++ Tool.quoted name

/-! ### Variables -/

def leadingAssignments : List Raw → List (Raw × Raw) × List Raw
  | [] => ([], [])
  | word :: rest =>
      match assignment word with
      | (name, some value) =>
          let (others, left) := leadingAssignments rest
          ((name, value) :: others, left)
      | (_, none) => ([], word :: rest)

def splitWords : Raw → Option Char → Option Raw → List Raw → List Raw
  | [], _, current, found => (current.toList.map List.reverse ++ found).reverse
  | char :: rest, some quote, current, found =>
      if char = quote then splitWords rest none (some (current.getD [])) found
      else splitWords rest (some quote) (some (char :: current.getD [])) found
  | char :: rest, none, current, found =>
      if char = '\'' || char = '"' then splitWords rest (some char) (some (current.getD [])) found
      else if Raw.isSpace char then
        splitWords rest none none (current.toList.map List.reverse ++ found)
      else splitWords rest none (some (char :: current.getD [])) found

def environmentUsage : Usage :=
  { rules :=
      [option 'i' "ignore-environment", option '0' "null", option 'u' "unset" .always,
        option 'C' "chdir" .always, option 'S' "split-string" .always, option 'v' "debug",
        wordOption "ignore-signal" .attached, wordOption "default-signal" .attached,
        wordOption "block-signal" .attached]
    status := 125
    operandsLast := true }

def changeVariables (found : Arguments) (assignments : List (Raw × Raw)) : Eval (Option Nat) := do
  if found.has "i" then Eval.modifyProcess fun process => { process with bindings := [] }
  match (found.values "u").find? fun name => name.isEmpty || name.contains '=' with
  | some bad => do
      Tool.complainOf ("cannot unset " ++ Tool.quoted bad) .invalid
      return some 125
  | none => do
      Eval.modifyProcess fun process =>
        { process with
          bindings := process.bindings.filter fun held => !(found.values "u").contains held.name }
      assignments.forM fun (name, value) => Eval.setVariable { name, value := some value, exported := true }
      return none

def environmentTool (run : Runner) : Program := fun words => do
  let spread :=
    match words with
    | ['-', 'S'] :: text :: rest => splitWords text none none [] ++ rest
    | ('-' :: 'S' :: text) :: rest => splitWords text none none [] ++ rest
    | _ => words
  withArguments environmentUsage spread fun found => do
  let strings := (found.values "S").flatMap fun text => splitWords text none none []
  let (isBare, operands) :=
    match strings ++ found.operands with
    | ['-'] :: rest => (true, rest)
    | all => (false, all)
  let (assignments, command) := leadingAssignments operands
  let options := if isBare then { found with options := ("i", none) :: found.options } else found
  match ← changeVariables options assignments with
  | some status => return status
  | none => do
      let ending : Raw := if found.has "0" then ['\x00'] else ['\n']
      match command with
      | [] =>
          Tool.output ((← Eval.process).bindings.reverse.flatMap fun held =>
            held.name ++ '=' :: held.value.getD [] ++ ending)
      | name :: _ => do
          match found.value? "C" with
          | none => pure ()
          | some folder => do
              match (← Eval.disk).find (Eval.pathOf folder) with
              | .ok (location, .folder) => do
                  Eval.setDisk { (← Eval.disk) with here := location }
              | .ok _ => do
                  Tool.complainOf ("cannot change directory to " ++ Tool.quoted folder) .notFolder
                  throw (.exit 125)
              | .error error => do
                  Tool.complainOf ("cannot change directory to " ++ Tool.quoted folder) error
                  throw (.exit 125)
          if found.has "v" then
            Eval.say 2 ("executing: " ++ name ++ ['\n'])
            command.zipIdx.forM fun (word, index) =>
              Eval.say 2 ("   arg[" ++ Raw.ofNat index ++ "]= " ++ Tool.quoted word ++ ['\n'])
          launch run Tool.quoted command

/-! ### Time -/

def spelledSignal? (text : Raw) : Option Nat :=
  (signal? text).or
    (if "SIG".toList.isPrefixOf (text.map Char.toUpper) then signal? (text.drop 3) else none)

def withLimit (milliseconds : Nat) (body : Eval Departure) : Eval (Option Departure) := do
  let before ← get
  let limit := before.clock + milliseconds
  let isNear : Bool := before.killTime.any (· ≤ limit)
  unless isNear do modify fun machine => { machine with killTime := some limit }
  let result ← tryCatch (some <$> body) fun stop => do
    match stop with
    | .outlived => if isNear then throw stop else return none
    | other => throw other
  modify fun machine =>
    { machine with
      killTime := before.killTime
      clock := if result.isNone then limit else machine.clock }
  return result

def limitUsage : Usage :=
  { rules :=
      [option 's' "signal" .always, option 'k' "kill-after" .always, option 'v' "verbose",
        wordOption "preserve-status", wordOption "foreground"]
    status := 125
    operandsLast := true }

def limitTool (run : Runner) : Program := fun words =>
  withArguments limitUsage words fun found => do
  let signal? := ((found.value? "s").map spelledSignal?).getD (some 15)
  let bad (message : Raw) : Eval Nat := Tool.misuse message 125
  match signal?, found.operands with
  | none, _ => bad (Tool.quoted ((found.value? "s").getD []) ++ ": invalid signal")
  | some signal, duration :: name :: arguments =>
      match Tool.milliseconds? duration with
      | none => bad ("invalid time interval " ++ Tool.quoted duration)
      | some milliseconds => do
          match ← startableProgram name with
          | .error error => do
              Tool.complainOf (failedToRun name) error
              return launchStatus error
          | .ok program => do
              let body := inProcess (run (.program program name arguments))
              let departure? ← if milliseconds = 0 then some <$> body else withLimit milliseconds body
              match departure? with
              | some departure =>
                  match departure.signal with
                  | none => return departure.status
                  | some signal => throw (.signalled signal (← Eval.process).identity)
              | none => do
                  if found.has "v" then
                    Tool.complain ("sending signal " ++ signalName signal ++ " to command " ++
                      Tool.quoted name)
                  if signal = 9 then throw (.signalled 9 (← Eval.process).identity)
                  else return if found.has "preserve-status" then 128 + signal else 124
  | some _, _ => do
      Tool.hint
      return 125

/-! ### Other circumstances -/

def isAdjustment (word : Raw) : Bool :=
  match word with
  | '-' :: '-' :: digit :: _ => digit.isDigit
  | '-' :: digit :: _ => digit.isDigit
  | _ => false

def priorityTool (run : Runner) : Program := fun words => do
  let adjusted := if (words.head?.map isAdjustment).getD false then words.drop 1 else words
  withArguments
    { rules := [option 'n' "adjustment" .always], status := 125, operandsLast := true } adjusted fun found => do
  let number : Option Raw :=
    match found.value? "n" with
    | some ('-' :: digits) => Raw.ofNat <$> Raw.nat? digits
    | some ('+' :: digits) => Raw.ofNat <$> Raw.nat? digits
    | some digits => Raw.ofNat <$> Raw.nat? digits
    | none => some ['0']
  match number, found.operands with
  | none, _ => do
      Tool.complain ("invalid adjustment " ++ Tool.quoted ((found.value? "n").getD []))
      return 125
  | some _, [] => Tool.output "0\n"
  | some _, command => launch run Tool.quoted command

def detachedTool (run : Runner) : Program := fun words =>
  withArguments { rules := [], status := 125, operandsLast := true } words fun found => do
  if found.operands.isEmpty then Tool.misuse "missing operand" 125
  else launch run failedToRun found.operands

def sessionTool (run : Runner) : Program := fun words =>
  withArguments
    { rules := [option 'c' "ctty", option 'f' "fork", option 'w' "wait"], operandsLast := true } words
    fun found => do
  if found.operands.isEmpty then Tool.misuse "no command specified" 1
  else launch run (fun name => "failed to execute " ++ name) found.operands

def bufferTool (run : Runner) : Program := fun words =>
  withArguments
    { rules := [option 'i' "input" .always, option 'o' "output" .always, option 'e' "error" .always]
      status := 125
      operandsLast := true } words fun found => do
  if found.operands.isEmpty then Tool.misuse "missing operand" 125
  else if found.options.isEmpty then Tool.misuse "you must specify a buffering mode option" 125
  else launch run failedToRun found.operands

end FixtureRunner.Shell
