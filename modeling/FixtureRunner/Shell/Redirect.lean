/-
Running parts of a script as processes of their own, and with their descriptors led
elsewhere.
-/

import FixtureRunner.Shell.Expansion
import FixtureRunner.Shell.Program

namespace FixtureRunner.Shell

inductive Task where
  | script (script : Script) (ends : Bool)
  | source (source : Source) (ends : Bool)
  | program (program : FoundProgram) (name : Raw) (arguments : List Raw)

abbrev Runner := Task → Eval Nat

def setStatus (status : Nat) : Eval Nat := do
  Eval.modifyProcess fun process => { process with status }
  return status

def runTrap (run : Runner) (command : Raw) : Eval Unit := do
  let before ← Eval.process
  Eval.modifyProcess fun process =>
    { process with leaving := some (before.leaving.getD before.status), isTesting := false }
  let _ ← Eval.ensuring (run (.source { rest := command } false)) (Eval.modifyProcess fun process =>
    { process with
      leaving := before.leaving
      isTesting := before.isTesting
      line := before.line
      lastLine := before.lastLine })
  let _ ← setStatus before.status

def runPending (run : Runner) : Eval Unit := do
  receiveSent
  let pending := (← Eval.process).pending
  unless pending.isEmpty do
    Eval.modifyProcess fun process => { process with pending := [] }
    pending.forM (runTrap run)

def untilExit (run : Runner) (body : Eval Nat) : Eval Nat := do
  let status ← tryCatch body fun stop => do
    match stop with
    | .exit status => setStatus (status % 256)
    | .fault => setStatus 2
    | .return status => setStatus (status % 256)
    | .leave _ | .again _ => return (← Eval.process).status
    | other => throw other
  match (← Eval.process).traps.lookup 0 with
  | none => return status
  | some command => do
      Eval.modifyProcess fun process =>
        { process with
          traps := process.traps.filter (·.1 ≠ 0)
          leaving := some status
          isTesting := false
          loops := 0
          pending := [] }
      tryCatch (do
          let _ ← run (.source { rest := command } false)
          return status) fun stop =>
        match stop with
        | .exit status => pure (status % 256)
        | .fault => pure 2
        | .signalled _ _ | .outlived => throw stop
        | _ => pure status

def inProcessAs (identity : Nat) (body : Eval Nat) : Eval Departure :=
  Eval.isolated do
    Eval.modifyProcess fun process =>
      { process with
        identity
        ancestors := process.identity :: process.ancestors
        pending := []
        leaving := none
        traps := process.traps.filter (·.2.isEmpty) }
    tryCatch ((Departure.mk · none) <$> body) fun stop => do
      match stop with
      | .exit status => return { status := status % 256 }
      | .fault => return { status := 2 }
      | .return status => return { status := status % 256 }
      | .leave _ | .again _ => return { status := (← Eval.process).status }
      | .signalled signal target =>
          if target = identity then return { status := 128 + signal, signal := some signal }
          else throw stop
      | .outlived => throw stop

def inProcess (body : Eval Nat) : Eval Departure := do
  inProcessAs (← Eval.newIdentity) body

def report (departure : Departure) : Eval Nat := do
  match departure.signal.bind Eval.signalText with
  | some text => Eval.say 2 (text.toList ++ ['\n'])
  | none => pure ()
  return departure.status

def inSubshell (run : Runner) (body : Eval Nat) : Eval Nat := do
  report (← inProcess (untilExit run body))

def Process.asProgram (process : Process) : Process :=
  { process with
    functions := []
    aliases := []
    isTesting := false
    reader := []
    switches := []
    loops := 0
    hidden := none
    tracked := []
    documents := #[]
    bindings := process.bindings.filter fun held => held.exported && held.value.isSome
    traps := process.traps.filter (·.2.isEmpty) }

def inChild (body : Eval Nat) : Eval Nat := do
  report (← inProcess body)

def capturing (run : Runner) : Capturing := fun body => do
  let channel ← Eval.newStream []
  let status ← inSubshell run do
    Eval.setDescriptor 1 (some channel)
    Eval.modifyProcess fun process => { process with isTesting := false }
    run (.script body true)
  Eval.modifyProcess fun process => { process with substituted := status }
  let content ← Eval.streamContent channel
  Eval.setChannel channel .null
  return Raw.ofBytes content

/-! ### Redirections -/

inductive Leading where
  | file (descriptor : Nat) (opening : Opening) (name : Raw)
  | copy (descriptor source : Nat)
  | close (descriptor : Nat)
  | document (descriptor : Nat) (body : List Part)

def openFault (opening : Opening) (name : Raw) (error : SystemError) : Raw :=
  let isAbsent := error = .missing || error = .notFolder
  match opening with
  | .read =>
      "cannot open " ++ name ++ ": " ++
        (if isAbsent then "No such file".toList else error.reason.toList)
  | _ =>
      "cannot create " ++ name ++ ": " ++
        (if isAbsent then "Directory nonexistent".toList else error.reason.toList)

def leading (run : Runner) : Redirection → Eval Leading
  | .file descriptor opening target =>
      return .file descriptor opening (← expandText (capturing run) target)
  | .document descriptor number =>
      return .document descriptor ((← Eval.process).documents.getD number [])
  | .duplicate descriptor target => do
      match ← expandText (capturing run) target with
      | ['-'] => return .close descriptor
      | [digit] =>
          if digit.isDigit then return .copy descriptor (digit.toNat - '0'.toNat) else bad
      | _ => bad
where
  bad : Eval Leading := do
    Eval.modifyProcess fun process => { process with line := process.lastLine }
    Eval.abort "Syntax error: Bad fd number"

def isForbidden (opening : Opening) (name : Raw) : Eval Bool := do
  if opening = .write && (← Eval.process).has .noOverwrite then
    match (← Eval.disk).find (Eval.pathOf name) with
    | .ok (location, .file _ _) => return !Eval.isDevice location
    | _ => return false
  else
    return false

def lead (run : Runner) : List Leading → Eval Bool
  | [] => return true
  | .file descriptor opening name :: rest => do
      if ← isForbidden opening name then do
        Eval.complain (openFault opening name .alreadyExists)
        return false
      else
        match ← Eval.openFile opening name with
        | .ok channel => do
            Eval.setDescriptor descriptor (some channel)
            lead run rest
        | .error error => do
            Eval.complain (openFault opening name error)
            return false
  | .close descriptor :: rest => do
      Eval.setDescriptor descriptor none
      lead run rest
  | .copy descriptor source :: rest => do
      match ← Eval.channelOf source with
      | some channel => do
          Eval.setDescriptor descriptor (some channel)
          lead run rest
      | none => do
          Eval.complain (Raw.ofNat source ++ ": Bad file descriptor")
          return false
  | .document descriptor body :: rest => do
      let text ← expandText (capturing run) body
      let channel ← Eval.newStream (Raw.toBytes text)
      Eval.setDescriptor descriptor (some channel)
      lead run rest

def keepingDescriptors (body : Eval Nat) : Eval Nat := do
  let descriptors := (← Eval.process).descriptors
  Eval.ensuring body (Eval.modifyProcess fun process => { process with descriptors })

def withRedirections (run : Runner) (redirections : List Redirection) (body refused : Eval Nat) :
    Eval Nat := do
  let leadings ← redirections.mapM (leading run)
  keepingDescriptors do
    if ← lead run leadings then body else refused

end FixtureRunner.Shell
