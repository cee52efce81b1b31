/-
Commands in the background, and the commands of the shell that wait for them or send
signals.

A job runs when the script waits for it or has ended, from the time at which it was
started.
-/

import FixtureRunner.Shell.Parameters
import FixtureRunner.Shell.Redirect

namespace FixtureRunner.Shell

open Tool (Program)

def startJob (body : Script) : Eval Unit := do
  let channel ← Eval.newChannel .null
  let identity ← Eval.newIdentity
  let machine ← get
  let process := machine.process
  let ignored := process.traps.filter fun held => held.2.isEmpty && held.1 ≠ 2 && held.1 ≠ 3
  let own : Process :=
    { process with
      identity
      ancestors := process.identity :: process.ancestors
      traps := (2, []) :: (3, []) :: ignored
      isTesting := false
      pending := []
      leaving := none
      descriptors := (0, channel) :: process.descriptors.filter (·.1 ≠ 0) }
  let job : Job := { process := own, here := machine.disk.here, body, start := machine.clock }
  set { machine with jobs := machine.jobs ++ [job] }
  Eval.modifyProcess fun held => { held with lastJob := some identity }

/-- Runs a job to its end; the clock is then at the later of the two ends. -/
def finishJob (run : Runner) (job : Job) : Eval Departure := do
  let clock := (← get).clock
  let identity := job.process.identity
  modify fun machine =>
    { machine with
      clock := job.start
      jobs := machine.jobs.filter (·.process.identity ≠ identity) }
  let toLater : Eval Unit := modify fun machine => { machine with clock := max machine.clock clock }
  let departure ← Eval.ensuring (inProcessAs identity (untilExit run do
    modify fun machine =>
      { machine with process := job.process, disk := { machine.disk with here := job.here } }
    run (.script job.body true))) toLater
  modify fun machine => { machine with ended := (identity, departure) :: machine.ended }
  return departure

def finishJobs (run : Runner) : Nat → Eval Unit
  | 0 => return ()
  | room + 1 => do
      match (← get).jobs with
      | [] => return ()
      | job :: _ => do
          let outlived ← tryCatch (do
              let _ ← finishJob run job
              pure false) fun stop =>
            match stop with
            | .outlived => pure true
            | other => throw other
          finishJobs run room
          if outlived then throw .outlived

def jobBound : Nat := Nat.pow 2 20

def waitBuiltin (run : Runner) : Program := fun words => do
  let found ← optionWords "" "" words
  if found.operands.isEmpty then do
    finishJobs run jobBound
    return 0
  else
    found.operands.foldlM (fun _ word => do
      if word.head? = some '%' then Eval.abort ("No such job: " ++ word)
      let identity ← numberOf word
      match (← get).jobs.find? (·.process.identity = identity) with
      | some job => do report (← finishJob run job)
      | none =>
          match (← get).ended.lookup identity with
          | some departure => return departure.status
          | none => return 127) 0

/-! ### Signals -/

def listSignals (words : List Raw) : Eval Nat := do
  match words with
  | [] => do
      let names := (List.range (signalBound - 1)).map fun index => signalName (index + 1) ++ ['\n']
      Eval.say 1 ("0\n" ++ names.flatten)
      return 0
  | word :: _ => do
      let number ← numberOf word
      let signal := if 128 < number then number - 128 else number
      if signal = 0 || signalBound ≤ signal then
        Eval.abort ("invalid signal number or exit status: " ++ word)
      else
        Eval.say 1 (signalName signal ++ ['\n'])
      return 0

def killUsage : Raw :=
  "Usage: kill [-s sigspec | -signum | -sigspec] [pid | job]... or\nkill -l [exitstatus]"

def send (signal identity : Nat) : Eval Bool := do
  let machine ← get
  let process := machine.process
  if identity = process.identity || identity = 0 then do
    if signal ≠ 0 then receive signal
    return true
  else if identity = runnerIdentity then do
    signalRunner signal
    return true
  else if process.ancestors.contains identity then do
    if signal ≠ 0 then
      modify fun held => { held with sent := held.sent ++ [(identity, signal)] }
    return true
  else if machine.jobs.any (·.process.identity = identity) then do
    if signal ≠ 0 && !isHarmless signal then
      modify fun held =>
        { held with
          jobs := held.jobs.filter (·.process.identity ≠ identity)
          ended := (identity, { status := 128 + signal, signal := some signal }) :: held.ended }
    return true
  else
    return false

def signalWords (words : List Raw) : Eval (Nat × Bool × List Raw) := do
  let named? : Option Nat :=
    match words with
    | ('-' :: name) :: _ => signal? name
    | _ => none
  match named? with
  | some signal => return (signal, false, words.drop 1)
  | none => do
      let found ← optionWords "l" "s" words
      match (found.options.filter (·.1 = 's')).getLast? with
      | none => return (15, found.has 'l', found.operands)
      | some (_, name) =>
          match signal? name with
          | some signal => return (signal, found.has 'l', found.operands)
          | none => Eval.abort ("invalid signal number or name: " ++ name)

def killBuiltin : Program := fun words => do
  if words.isEmpty then Eval.abort killUsage
  let (signal, lists, targets) ← signalWords words
  if lists then
    listSignals targets
  else if targets.isEmpty then
    Eval.abort killUsage
  else
    targets.foldlM (fun status target => do
      match target with
      | '%' :: _ => Eval.abort ("No such job: " ++ target)
      | '-' :: group => do
          let _ ← numberOf group
          absent
      | _ => do
          if ← send signal (← numberOf target) then return status else absent) 0
where
  absent : Eval Nat := do
    Eval.complain "No such process\n"
    return 1

end FixtureRunner.Shell
