/-
What is kept of a finished process.
-/

import FixtureRunner.Text.Bytes

namespace FixtureRunner

inductive Ending where
  | exited (code : Nat)
  | signalled (signal : Nat)
deriving DecidableEq

/-- The exit code, or 128 and the number of the signal. -/
def Ending.status : Ending → Nat
  | .exited code => code
  | .signalled signal => 128 + signal

structure Capture where
  kept : Bytes := []
  truncated : Bool := false
deriving DecidableEq

namespace Capture

/-- The bytes that one read can bring. -/
def bufferSize : Nat := 8192

/-- A buffer with what was read at its start. -/
def fill (buffer read : Bytes) : Bytes :=
  (read ++ buffer.drop read.length).take buffer.length

/-- The first bytes of a buffer, unless it has fewer. -/
def slice? (buffer : Bytes) (length : Nat) : Option Bytes :=
  if length ≤ buffer.length then some (buffer.take length) else none

/-- Takes what was read into a buffer as far as the cap allows; once something was cut, nothing
more is taken. -/
def take? (cap : Nat) (capture : Capture) (buffer : Bytes) (length : Nat) : Option Capture :=
  if capture.truncated then
    some capture
  else
    let room := cap - capture.kept.length
    if length ≤ room then
      (slice? buffer length).map fun slice => { capture with kept := capture.kept ++ slice }
    else
      (slice? buffer room).map fun slice => { kept := capture.kept ++ slice, truncated := true }

/-- Reads until a read brings nothing; the reads behind it are left. -/
def readToEnd? (cap : Nat) (capture : Capture) (buffer : Bytes) :
    List Bytes → Option (Capture × List Bytes)
  | [] => some (capture, [])
  | read :: rest =>
      if read = [] then
        some (capture, rest)
      else do
        let filled := fill buffer read
        readToEnd? cap (← take? cap capture filled read.length) filled rest

/-- What reads bring of a chunk. -/
def pieces (chunk : Bytes) : List Bytes :=
  (List.range ((chunk.length + bufferSize - 1) / bufferSize)).map fun index =>
    (chunk.drop (index * bufferSize)).take bufferSize

/-- A reader that breaks off leaves nothing. -/
def collect (cap : Nat) (chunks : List Bytes) : Capture :=
  let read := readToEnd? cap {} (List.replicate bufferSize 0) (chunks.flatMap pieces)
  (read.map Prod.fst).getD {}

def text (capture : Capture) : Text :=
  Text.decode capture.kept

end Capture

structure ProcessOutput where
  exitStatus : Nat
  timedOut : Bool := false
  stdout : Text := []
  stderr : Text := []
  stdoutTruncated : Bool := false
  stderrTruncated : Bool := false
deriving DecidableEq

def ProcessOutput.success (output : ProcessOutput) : Bool :=
  output.exitStatus = 0 && !output.timedOut

end FixtureRunner
