/-
A program with its arguments and the bounds under which it runs.
-/

namespace FixtureRunner

def Invocation.defaultOutputCap : Nat := 16 * 1024 * 1024

structure Invocation where
  program : String
  arguments : List String := []
  timeoutMs : Option Nat := none
  maxOutputBytes : Nat := Invocation.defaultOutputCap
deriving DecidableEq

def Invocation.display (invocation : Invocation) : String :=
  String.intercalate " " (invocation.program :: invocation.arguments)

end FixtureRunner
