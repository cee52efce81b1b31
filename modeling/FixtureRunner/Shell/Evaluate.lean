/-
Running scripts and programs.

Everything runs on one machine, one thing after another.  The commands of a pipeline
run in order, each reading what the one before it wrote, and all from the same time on.
-/

import FixtureRunner.Shell.FileWalk
import FixtureRunner.Shell.Gather
import FixtureRunner.Shell.Start
import FixtureRunner.Tool.Edit

namespace FixtureRunner.Shell

/-! ### Programs -/

def outputOf (run : Runner) (command : Raw) : Eval Raw := do
  match executableAt (← Eval.disk) (Eval.pathOf "/bin/sh") with
  | .error _ => return []
  | .ok location => do
      let channel ← Eval.newStream []
      let _ ← inProcess do
        Eval.setDescriptor 1 (some channel)
        run (.program { location, path := "/bin/sh" } shellName.toList ["-c", command])
      return Raw.ofBytes (← Eval.streamContent channel)

def launchers (run : Runner) : List (String × Tool.Program) :=
  [("env", environmentTool run), ("find", walkTool run), ("nice", priorityTool run),
    ("nohup", detachedTool run), ("sed", Tool.editTool (outputOf run)), ("setsid", sessionTool run), ("stdbuf", bufferTool run),
    ("timeout", limitTool run), ("xargs", gatherTool run)]

def runProgram (run : Runner) (program : FoundProgram) (name : Raw) (arguments : List Raw) :
    Eval Nat := do
  Eval.modifyProcess fun process => { process.asProgram with name }
  match (← Eval.disk).entryAt? program.location with
  | some (.file content _) =>
      match Executable.ofContent content with
      | .installed tool =>
          if shellNames.contains tool then
            runShell run name arguments
          else
            match (launchers run).lookup tool, Tool.catalog.lookup tool with
            | some action, _ => action arguments
            | none, some action => action arguments
            | none, none => return 127
      | .interpreted interpreter argument => do
          match executableAt (← Eval.disk) (Eval.pathOf interpreter) with
          | .ok location =>
              run (.program { location, path := interpreter } interpreter
                (argument.toList ++ program.path :: arguments))
          | .error _ => return 127
      | .unmarked => runShell run "/bin/sh" (program.path :: arguments)
  | _ => return 126

/-! ### Conditions and loops -/

def testing (body : Eval Nat) : Eval Nat := do
  let before := (← Eval.process).isTesting
  Eval.modifyProcess fun process => { process with isTesting := true }
  Eval.ensuring body (Eval.modifyProcess fun process => { process with isTesting := before })

def heed (status : Nat) : Eval Nat := do
  let process ← Eval.process
  if status ≠ 0 && process.has .exitOnError && !process.isTesting then throw (.exit status)
  else setStatus status

inductive Round where
  | finished (status : Nat)
  | left
  | again

def round (body : Eval Nat) : Eval Round := do
  let loops := (← Eval.process).loops
  Eval.modifyProcess fun process => { process with loops := loops + 1 }
  Eval.ensuring
    (tryCatch (Round.finished <$> body) fun stop =>
      match stop with
      | .leave count => if count ≤ 1 then pure .left else throw (.leave (count - 1))
      | .again count => if count ≤ 1 then pure .again else throw (.again (count - 1))
      | other => throw other)
    (Eval.modifyProcess fun process => { process with loops })

def roundBound : Nat := Nat.pow 2 40

/-- Repeats a body while its condition holds, or until it does; `last` is the status of the
body so far. -/
def runLoop (run : Runner) (wanted : Bool) (condition body : Script) : Nat → Nat → Eval Nat
  | 0, last => return last
  | room + 1, last => do
      match ← round (testing (run (.script condition false))) with
      | .left => return last
      | .again => runLoop run wanted condition body room last
      | .finished tested =>
          if (tested = 0) != wanted then
            return last
          else do
            match ← round (run (.script body false)) with
            | .left => return 0
            | .again => runLoop run wanted condition body room 0
            | .finished status => runLoop run wanted condition body room status

def runEach (run : Runner) (name : Raw) (body : Script) : List Raw → Nat → Eval Nat
  | [], last => return last
  | value :: rest, _ => do
      Eval.assign name value
      match ← round (run (.script body false)) with
      | .left => return 0
      | .again => runEach run name body rest 0
      | .finished status => runEach run name body rest status

def matchesAny (capture : Capturing) (subject : Raw) : List Word → Eval Bool
  | [] => return false
  | pattern :: rest => do
      if globMatches (← expandPattern capture pattern) subject then return true
      else matchesAny capture subject rest

def runBranches (run : Runner) (ends : Bool) (subject : Raw) : List (List Word × Script) → Eval Nat
  | [] => setStatus 0
  | (patterns, body) :: rest => do
      if ← matchesAny (capturing run) subject patterns then
        match body with
        | .nothing => setStatus 0
        | _ => run (.script body ends)
      else
        runBranches run ends subject rest

/-! ### Pipelines -/

/-- How many pieces a command may write before the next one has gone. -/
def pipePatience : Nat := 50000

structure Piping where
  input : Option Nat := none
  departures : List Departure := []
  latest : Nat
  outlived : Bool := false

def runStage (run : Runner) (start : Nat) (isLast : Bool) (piping : Piping) (command : Script) :
    Eval Piping := do
  let output ←
    if isLast then pure none
    else some <$> Eval.newChannel (.stream { patience := some pipePatience })
  modify fun machine => { machine with clock := start }
  let stage : Eval Nat := do
    match piping.input with
    | some channel => Eval.setDescriptor 0 (some channel)
    | none => pure ()
    match output with
    | some channel => Eval.setDescriptor 1 (some channel)
    | none => pure ()
    run (.script command true)
  let (departure, outlived) ← tryCatch ((·, false) <$> inProcess (untilExit run stage)) fun stop =>
    match stop with
    | .outlived => pure ({ status := 0 }, true)
    | other => throw other
  match piping.input with
  | some channel => Eval.setChannel channel .null
  | none => pure ()
  return {
    input := output
    departures := departure :: piping.departures
    latest := max piping.latest (← get).clock
    outlived := piping.outlived || outlived }

def runStages (run : Runner) (start : Nat) : Piping → List Script → Eval Piping
  | piping, [] => return piping
  | piping, command :: rest => do
      runStages run start (← runStage run start rest.isEmpty piping command) rest

def runPipeline (run : Runner) (commands : List Script) : Eval Nat := do
  let start := (← get).clock
  let piping ← runStages run start { latest := start } commands
  modify fun machine => { machine with clock := piping.latest }
  if piping.outlived then throw .outlived
  piping.departures.reverse.foldlM (fun _ departure => report departure) 0

/-! ### Texts -/

def readSource (run : Runner) (ends : Bool) : Nat → Source → Nat → Eval Nat
  | 0, _, status => return status
  | room + 1, source, status => do
      let process ← Eval.process
      match { source with aliases := process.aliases }.next? with
      | .error fault => do
          Eval.modifyProcess fun held => { held with line := fault.line }
          Eval.abort fault.problem.message
      | .ok none => return status
      | .ok (some (script, after)) => do
          if source.isFile && process.has .verbose then
            Eval.say 2 (source.rest.take (source.rest.length - after.rest.length))
          Eval.modifyProcess fun held => { held with lastLine := after.line }
          match script with
          | .nothing => readSource run ends room after status
          | _ => do
              let isLast := ends && after.rest.isEmpty && source.rest.getLast? ≠ some '\n'
              let found ← run (.script script isLast)
              readSource run ends room after found

/-! ### Scripts -/

def runSubshell (run : Runner) (ends : Bool) (line : Nat) (body : Script)
    (redirections : List Redirection) : Eval Nat := do
  Eval.setLine line
  let leadings ← redirections.mapM (leading run)
  let inner : Eval Nat := do
    if ← lead run leadings then run (.script body true) else throw .fault
  if ends && (← Eval.process).traps.all (·.2.isEmpty) then do
    let status ← inner
    throw (.exit status)
  else
    inSubshell run inner

/-- Keeps a function; the documents of the command around it belong to it. -/
def defineFunction (name : Raw) (body : Script) : Eval Nat := do
  Eval.modifyProcess fun process =>
    let whole := if process.documents.isEmpty then body else .documented process.documents body
    { process with functions := (name, whole) :: process.functions.filter (·.1 ≠ name) }
  setStatus 0

def runSequence (run : Runner) (ends : Bool) : List Script → Nat → Eval Nat
  | [], status => return status
  | [last], _ => run (.script last ends)
  | command :: rest, _ => do
      let status ← run (.script command false)
      runSequence run ends rest status

def runScript (run : Runner) (ends : Bool) : Script → Eval Nat
  | .nothing => (·.status) <$> Eval.process
  | .simple line assignments words redirections => do
      heed (← runSimple run ends line assignments words redirections)
  | .pipeline commands => do heed (← runPipeline run commands)
  | .negation command => do
      let status ← testing (run (.script command false))
      setStatus (if status = 0 then 1 else 0)
  | .conjunction first second => do
      let status ← testing (run (.script first false))
      if status = 0 then run (.script second ends) else setStatus status
  | .disjunction first second => do
      let status ← testing (run (.script first false))
      if status = 0 then setStatus 0 else run (.script second ends)
  | .sequence commands => runSequence run ends commands 0
  | .background line command => do
      Eval.setLine line
      startJob command
      setStatus 0
  | .subshell line body redirections => do heed (← runSubshell run ends line body redirections)
  | .branch condition consequence alternative => do
      let status ← testing (run (.script condition false))
      if status = 0 then
        run (.script consequence ends)
      else
        match alternative with
        | none => setStatus 0
        | some other => run (.script other ends)
  | .loop wanted condition body => do setStatus (← runLoop run wanted condition body roundBound 0)
  | .each line name words body => do
      Eval.setLine line
      let values ← expandWords (capturing run) words
      setStatus (← runEach run name body values 0)
  | .select line word branches => do
      Eval.setLine line
      let subject ← expandText (capturing run) word
      runBranches run ends subject branches
  | .function _ name body => defineFunction name body
  | .redirected line body redirections => do
      Eval.setLine line
      withRedirections run redirections
        (do setStatus (← run (.script body false))) (heed 2)
  | .documented documents body => do
      let before := (← Eval.process).documents
      Eval.modifyProcess fun process => { process with documents }
      Eval.ensuring (run (.script body ends))
        (Eval.modifyProcess fun process => { process with documents := before })

def depthSignal : Nat := 11

/-- Runs a task; `depth` bounds how deeply commands and processes are nested. -/
def evaluate : Nat → Task → Eval Nat
  | 0, _ => do throw (.signalled depthSignal (← Eval.process).identity)
  | depth + 1, task => do
      let run : Runner := evaluate depth
      match task with
      | .program program name arguments => runProgram run program name arguments
      | .source source ends => readSource run ends textBound source 0
      | .script script ends => do
          if (← Eval.process).has .noRun then
            return (← Eval.process).status
          else do
            let status ← runScript run ends script
            runPending run
            return status

end FixtureRunner.Shell
