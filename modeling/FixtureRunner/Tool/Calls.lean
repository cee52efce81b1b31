/-
A program given as calls on the command line: of `sleep`, of `exit` and of the system.
-/

import FixtureRunner.Shell.Signal
import FixtureRunner.Text.Blank
import FixtureRunner.Tool.Message

namespace FixtureRunner.Tool

open Shell (Eval)

inductive Call where
  | pause (seconds : Nat)
  | leave (status : Nat)
  | system (arguments : List Int)

namespace Call

def argument? (process : Shell.Process) (text : Raw) : Option Int :=
  match text with
  | '-' :: digits => (Raw.nat? digits).map Int.negOfNat
  | _ => (if text = "getppid" then process.ancestors.head? else Raw.nat? text).map Int.ofNat

def ofText? (process : Shell.Process) (text : Raw) : Option Call := do
  let name := text.takeWhile Char.isAlpha
  let inner ←
    match Text.trim (text.drop name.length) with
    | '(' :: bracketed => if bracketed.getLast? = some ')' then some bracketed.dropLast else none
    | plain => some plain
  let arguments ← (Text.fields ',' inner).mapM fun word => argument? process (Text.trim word)
  match String.ofList name, arguments with
  | "sleep", [.ofNat seconds] => some (.pause seconds)
  | "exit", [.ofNat status] => some (.leave status)
  | "syscall", arguments => some (.system arguments)
  | _, _ => none

/-- Makes the calls in turn. System call 101 traces, and request 16902 of it does not stop. -/
def perform : List Call → Eval Nat
  | [] => return 0
  | .pause seconds :: rest => do
      Eval.pass (seconds * 1000)
      perform rest
  | .leave status :: _ => return status
  | .system (101 :: 16902 :: .ofNat identity :: _) :: rest => do
      Shell.traceProcess identity
      perform rest
  | .system _ :: rest => perform rest

end Call

def callTool : Program := fun words => do
  let process ← Eval.process
  match words with
  | ['-', 'e'] :: code :: _ =>
      let statements := ((Text.fields ';' code).map Text.trim).filter (· ≠ [])
      match statements.mapM (Call.ofText? process) with
      | some calls => do
          let killTime := (← get).killTime
          let status ← Call.perform calls
          modify fun machine => { machine with killTime }
          return status
      | none => fail "syntax error" 255
  | _ => fail "no program" 255

end FixtureRunner.Tool
