/-
A small machine on which scripts and tools run: a disk, a clock, open channels, and the
process that is running.
-/

import FixtureRunner.Disk.Access
import FixtureRunner.Shell.Syntax

namespace FixtureRunner.Shell

structure Stream where
  front : Bytes := []
  back : List Bytes := []
  supply : Bytes := []
  patience : Option Nat := none

inductive Channel where
  | null
  /-- Takes nothing and holds zeros without end. -/
  | full
  | stream (stream : Stream)
  | file (location : Location) (offset : Nat) (opening : Opening)
  | folder

structure Variable where
  name : Raw
  /-- A variable can be marked before it is set. -/
  value : Option Raw
  exported : Bool := false
  constant : Bool := false

inductive Switch where
  | exitOnError
  | noPathnames
  | ignoreEnd
  | interactive
  | monitor
  | noRun
  | input
  | trace
  | verbose
  | vi
  | emacs
  | noOverwrite
  | exportAll
  | notify
  | refuseUnset
  | privileged
  | noLog
  | debug
deriving DecidableEq

structure Process where
  name : Raw := ['s', 'h']
  reader : Raw := []
  arguments : List Raw := []
  bindings : List Variable := []
  functions : List (Raw × Script) := []
  aliases : List (Raw × Raw) := []
  switches : List Switch := []
  descriptors : List (Nat × Nat) := []
  documents : Array (List Part) := #[]
  status : Nat := 0
  line : Nat := 1
  lastLine : Nat := 1
  identity : Nat := 1000
  shellIdentity : Nat := 1000
  ancestors : List Nat := [999]
  traps : List (Nat × Raw) := []
  /-- Inside a condition a failing command does not end the script. -/
  isTesting : Bool := false
  lastJob : Option Nat := none
  loops : Nat := 0
  hidden : Option (List (Raw × Option Variable)) := none
  optionIndex : Nat := 1
  optionOffset : Option Nat := none
  place : Raw := []
  mask : Nat := 18
  pending : List Raw := []
  substituted : Nat := 0
  leaving : Option Nat := none
  tracked : List (Raw × Raw) := []
  outputRefused : Bool := false

structure Job where
  process : Process
  here : Location
  body : Script
  start : Nat

structure Departure where
  status : Nat
  signal : Option Nat := none

structure Machine where
  disk : Disk
  process : Process := {}
  channels : Array Channel := #[]
  clock : Nat := 0
  steps : Nat := 0
  killTime : Option Nat := none
  /-- When the runner kills, unless it is stopped or sees the end before. -/
  bound : Option Nat := none
  isRunnerStopped : Bool := false
  /-- When the program that the runner waits for ended. -/
  endTime : Option Nat := none
  jobs : List Job := []
  ended : List (Nat × Departure) := []
  sent : List (Nat × Nat) := []
  nextIdentity : Nat := 1001

inductive Stop where
  | exit (status : Nat)
  /-- A fault that ends the shell unless an ordinary command of its own has met it. -/
  | fault
  | signalled (signal identity : Nat)
  | outlived
  | leave (loops : Nat)
  | again (loops : Nat)
  | return (status : Nat)
deriving DecidableEq

abbrev Eval := ExceptT Stop (StateM Machine)

def Process.has (process : Process) (switch : Switch) : Bool :=
  process.switches.contains switch

namespace Stream

def content (stream : Stream) : Bytes :=
  if stream.back.isEmpty then stream.front else stream.front ++ stream.back.reverse.flatten

def supplyBound : Nat := Nat.pow 2 17

def filled (wanted : Nat) (stream : Stream) : Stream :=
  let front := stream.content
  if stream.supply.isEmpty then
    { stream with front, back := [] }
  else
    let missing := wanted - front.length
    let rounds := (missing + stream.supply.length - 1) / stream.supply.length
    { stream with front := front ++ (List.replicate rounds stream.supply).flatten, back := [] }

end Stream

namespace Eval

variable {α : Type}

def process : Eval Process :=
  return (← get).process

def modifyProcess (change : Process → Process) : Eval Unit :=
  modify fun machine => { machine with process := change machine.process }

def setLine (line : Nat) : Eval Unit :=
  modifyProcess fun process => { process with line }

def disk : Eval Disk :=
  return (← get).disk

def setDisk (disk : Disk) : Eval Unit :=
  modify fun machine => { machine with disk }

def pass (milliseconds : Nat) : Eval Unit := do
  modify fun machine => { machine with clock := machine.clock + milliseconds }
  let machine ← get
  match machine.killTime with
  | none => return ()
  | some limit => if limit < machine.clock then throw .outlived else return ()

def stepsPerMillisecond : Nat := 500

def step : Eval Unit := do
  let steps := (← get).steps + 1
  if steps < stepsPerMillisecond then
    modify fun machine => { machine with steps }
  else do
    modify fun machine => { machine with steps := 0 }
    pass 1

def newIdentity : Eval Nat := do
  let identity := (← get).nextIdentity
  modify fun machine => { machine with nextIdentity := identity + 1 }
  return identity

/-! ### Channels -/

def newChannel (channel : Channel) : Eval Nat := do
  let number := (← get).channels.size
  modify fun machine => { machine with channels := machine.channels.push channel }
  return number

def newStream (content : Bytes) : Eval Nat :=
  newChannel (.stream { front := content })

def setChannel (number : Nat) (channel : Channel) : Eval Unit :=
  modify fun machine => { machine with channels := machine.channels.setIfInBounds number channel }

def channel (number : Nat) : Eval Channel :=
  return (← get).channels.getD number .null

def streamContent (number : Nat) : Eval Bytes := do
  match ← channel number with
  | .stream stream => return stream.content
  | _ => return []

def setDescriptor (descriptor : Nat) (channel : Option Nat) : Eval Unit :=
  modifyProcess fun process =>
    let others := process.descriptors.filter (·.1 ≠ descriptor)
    { process with
      descriptors :=
        match channel with
        | none => others
        | some number => (descriptor, number) :: others }

def channelOf (descriptor : Nat) : Eval (Option Nat) :=
  return (← process).descriptors.lookup descriptor

def splice (content : Bytes) (offset : Nat) (piece : Bytes) : Bytes :=
  let front := content.take offset
  front ++ List.replicate (offset - front.length) 0 ++ piece ++ content.drop (offset + piece.length)

def pipeSignal : Nat := 13

def writeChannel (number : Nat) (piece : Bytes) : Eval (Option SystemError) := do
  match ← channel number with
  | .null => return none
  | .full => return if piece.isEmpty then none else some .noSpace
  | .folder => return some .badDescriptor
  | .stream stream =>
      if piece.isEmpty then
        return none
      else if stream.patience = some 0 then
        throw (.signalled pipeSignal (← process).identity)
      else do
        setChannel number (.stream { stream with
          back := piece :: stream.back
          patience := stream.patience.map (· - 1) })
        return none
  | .file location offset opening =>
      if opening = .read then
        return some .badDescriptor
      else
        match (← disk).entryAt? location with
        | some (.file content executable) => do
            let start := if opening = .append then content.length else offset
            setDisk ((← disk).put location (.file (splice content start piece) executable))
            setChannel number (.file location (start + piece.length) opening)
            return none
        | _ => return none

def write (descriptor : Nat) (piece : Bytes) : Eval (Option SystemError) := do
  let refusal? ←
    match ← channelOf descriptor with
    | none => pure (if piece.isEmpty then none else some .badDescriptor)
    | some number => writeChannel number piece
  if descriptor = 1 && refusal?.isSome then
    modifyProcess fun process => { process with outputRefused := true }
  return refusal?

def say (descriptor : Nat) (text : Raw) : Eval Unit := do
  let _ ← write descriptor (Raw.toBytes text)

def isReadable (opening : Opening) : Bool :=
  opening = .read || opening = .readWrite

def remainingFrom (number wanted : Nat) : Eval (Except SystemError Bytes) := do
  match ← channel number with
  | .null => return .ok []
  | .folder => return .error .isFolder
  | .full => return .ok (List.replicate wanted 0)
  | .stream stream => do
      let filled := stream.filled wanted
      setChannel number (.stream filled)
      return .ok filled.front
  | .file location offset opening =>
      if !isReadable opening then
        return .error .badDescriptor
      else
        match (← disk).entryAt? location with
        | some (.file content _) => return .ok (content.drop offset)
        | _ => return .ok []

def consumeFrom (number count : Nat) : Eval Unit := do
  match ← channel number with
  | .null | .folder | .full => return ()
  | .stream stream => setChannel number (.stream { stream with front := stream.front.drop count })
  | .file location offset opening => setChannel number (.file location (offset + count) opening)

def remaining (descriptor wanted : Nat) : Eval (Except SystemError Bytes) := do
  match ← channelOf descriptor with
  | none => return .error .badDescriptor
  | some number => remainingFrom number wanted

def consume (descriptor count : Nat) : Eval Unit := do
  match ← channelOf descriptor with
  | none => return ()
  | some number => consumeFrom number count

def readAll (descriptor : Nat) : Eval (Except SystemError Raw) := do
  match ← remaining descriptor Stream.supplyBound with
  | .error error => return .error error
  | .ok bytes => do
      consume descriptor bytes.length
      return .ok (Raw.ofBytes bytes)

/-! ### Files -/

def devices : List String :=
  ["null", "zero", "full", "tty", "stdin", "stdout", "stderr"]

def isDevice (location : Location) : Bool :=
  match location with
  | ["dev", name] => devices.contains name
  | ["dev", "fd", _] => true
  | _ => false

def pathOf (name : Raw) : Path :=
  ⟨Raw.toString name⟩

def reopen (descriptor : Nat) (opening : Opening) : Eval (Except SystemError Nat) := do
  match ← channelOf descriptor with
  | none => return .error .missing
  | some number => do
      match ← channel number with
      | .file location _ _ => return .ok (← newChannel (.file location 0 opening))
      | _ => return .ok number

def openDevice (location : Location) (opening : Opening) : Eval (Except SystemError Nat) := do
  match location with
  | ["dev", "zero"] =>
      return .ok (← newChannel (if opening = .read then .stream { supply := [0] } else .null))
  | ["dev", "full"] => return .ok (← newChannel .full)
  | ["dev", "tty"] => return .error .noDevice
  | ["dev", "stdin"] => reopen 0 opening
  | ["dev", "stdout"] => reopen 1 opening
  | ["dev", "stderr"] => reopen 2 opening
  | ["dev", "fd", number] => reopen ((Raw.nat? number.toList).getD 0) opening
  | _ => return .ok (← newChannel .null)

def openFile (opening : Opening) (name : Raw) : Eval (Except SystemError Nat) := do
  let current ← disk
  let path := pathOf name
  match opening with
  | .read =>
      match current.find path with
      | .error error => return .error error
      | .ok (location, .file _ _) =>
          if isDevice location then openDevice location opening
          else return .ok (← newChannel (.file location 0 .read))
      | .ok _ => return .ok (← newChannel .folder)
  | _ =>
      match current.writable path with
      | .error error => return .error error
      | .ok (location, executable) =>
          if isDevice location then
            openDevice location opening
          else do
            let content : Bytes :=
              if opening = .write || opening = .overwrite then []
              else
                match current.entryAt? location with
                | some (.file content _) => content
                | _ => []
            setDisk (current.put location (.file content executable))
            return .ok (← newChannel (.file location 0 opening))

def drain (number : Nat) : Eval (Except SystemError Raw) := do
  match ← remainingFrom number Stream.supplyBound with
  | .error error => return .error error
  | .ok bytes => do
      consumeFrom number bytes.length
      return .ok (Raw.ofBytes bytes)

def readFile (name : Raw) : Eval (Except SystemError Raw) := do
  match ← openFile .read name with
  | .error error => return .error error
  | .ok number => drain number

def writeFile (name : Raw) (content : Raw) : Eval (Option SystemError) := do
  match ← openFile .write name with
  | .error error => return some error
  | .ok number => writeChannel number (Raw.toBytes content)

/-! ### Messages -/

def messageLead (process : Process) : Raw :=
  process.name ++ ": " ++ Raw.ofNat process.line ++ ": "

def complain (message : Raw) : Eval Unit := do
  let process ← process
  say 2 (messageLead process ++ process.reader ++ message ++ ['\n'])

def abort (message : Raw) : Eval α := do
  complain message
  throw .fault

/-! ### Variables -/

def bindingOf? (name : Raw) : Eval (Option Variable) :=
  return (← process).bindings.find? (·.name = name)

def lookup? (name : Raw) : Eval (Option Raw) :=
  return (← bindingOf? name).bind (·.value)

def setVariable (variable_ : Variable) : Eval Unit :=
  modifyProcess fun process =>
    let isHeld := process.bindings.any (·.name = variable_.name)
    { process with
      bindings :=
        if isHeld then
          process.bindings.map fun held => if held.name = variable_.name then variable_ else held
        else
          variable_ :: process.bindings }

def modifyVariable (name : Raw) (change : Variable → Variable) : Eval Unit := do
  setVariable (change ((← bindingOf? name).getD { name, value := none }))

def assign (name value : Raw) : Eval Unit := do
  let held := (← bindingOf? name).getD { name, value := none }
  if held.constant then abort (name ++ ": is read only")
  let exportsAll := (← process).has .exportAll
  setVariable { held with value := some value, exported := held.exported || exportsAll }
  if name = "OPTIND" then
    modifyProcess fun process =>
      { process with optionIndex := max 1 ((Raw.nat? value).getD 1), optionOffset := none }
  if name = "PATH" then
    modifyProcess fun process => { process with tracked := [] }

def exportName (name : Raw) : Eval Unit :=
  modifyVariable name fun held => { held with exported := true }

def forget (name : Raw) : Eval Unit := do
  match ← bindingOf? name with
  | none => return ()
  | some held => do
      if held.constant then abort (name ++ ": is read only")
      modifyProcess fun process =>
        { process with bindings := process.bindings.filter (·.name ≠ name) }

/-! ### Boundaries -/

/-- Runs a body and then, however it ends, something that puts things back. -/
def ensuring (body : Eval α) (restore : Eval Unit) : Eval α := do
  let result ← tryCatch (Except.ok <$> body) (fun stop => pure (Except.error stop))
  restore
  match result with
  | .ok value => return value
  | .error stop => throw stop

/-- Runs a part of a script and then restores the process as it was, keeping what it did
to the rest of the machine. -/
def isolated (body : Eval α) : Eval α := do
  let before ← get
  ensuring body (modify fun machine =>
    { machine with
      process := before.process
      disk := { machine.disk with here := before.disk.here } })

def signalText (signal : Nat) : Option String :=
  match signal with
  | 1 => some "Hangup"
  | 3 => some "Quit"
  | 4 => some "Illegal instruction"
  | 5 => some "Trace/breakpoint trap"
  | 6 => some "Aborted"
  | 7 => some "Bus error"
  | 8 => some "Floating point exception"
  | 9 => some "Killed"
  | 10 => some "User defined signal 1"
  | 11 => some "Segmentation fault"
  | 12 => some "User defined signal 2"
  | 14 => some "Alarm clock"
  | 15 => some "Terminated"
  | 16 => some "Stack fault"
  | 24 => some "CPU time limit exceeded"
  | 25 => some "File size limit exceeded"
  | 26 => some "Virtual timer expired"
  | 27 => some "Profiling timer expired"
  | 29 => some "I/O possible"
  | 30 => some "Power failure"
  | 31 => some "Bad system call"
  | _ => none

end Eval
end FixtureRunner.Shell
