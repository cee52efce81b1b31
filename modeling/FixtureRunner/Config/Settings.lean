/-
The settings of a run: the collaborators with their arguments and bounds, and the
normalizer.  Settings start from the standard ones and are overlaid by a configuration
file, the environment and the command line, in this order.
-/

import FixtureRunner.Config.Document
import FixtureRunner.Normalizer
import FixtureRunner.Path.Basic
import FixtureRunner.Process.Invocation

namespace FixtureRunner

structure Settings where
  compiler : String := "../saphyr"
  compilerArgs : List String := []
  diff : String := "diff"
  diffArgs : List String := ["-uwB"]
  normalizer : Normalizer := Normalizer.standard
  timeoutMs : Option Nat := none
  maxOutputBytes : Nat := Invocation.defaultOutputCap

namespace Config

/-- A program that is absolute or a single component is looked up as it is written. -/
def isPlainProgram (program : Path) : Bool :=
  program.isAbsolute || program.components.length = 1

/-- A compiler written in a configuration file is seen from the directory of the file. -/
def resolveBeside (configPath program : Path) : Path :=
  if isPlainProgram program then
    program
  else
    match configPath.parent? with
    | some directory => directory.join program
    | none => program

/-- A compiler written on the command line is seen from the working directory. -/
def resolveFrom (workingDirectory program : Path) : Path :=
  if 1 < program.components.length ∧ ¬ program.isAbsolute then workingDirectory.join program
  else program

end Config

namespace Settings

def ofDocument (configPath : Path) (document : Config.Document)
    (compile : Pattern.Compiler := Pattern.compile) : Except BadPattern Settings := do
  let standard : Settings := {}
  let normalizer ←
    match document.normalize with
    | none => pure standard.normalizer
    | some patterns => Normalizer.ofPatterns patterns compile
  return {
    compiler :=
      match document.compiler with
      | none => standard.compiler
      | some program => (Config.resolveBeside configPath ⟨program⟩).text
    compilerArgs := document.compilerArgs.getD standard.compilerArgs
    diff := document.diff.getD standard.diff
    diffArgs := document.diffArgs.getD standard.diffArgs
    normalizer
    timeoutMs := document.timeoutMs
    maxOutputBytes := document.maxOutputBytes.getD standard.maxOutputBytes }

def compilerVariable : String := "TSTRUN_COMPILER"

def diffVariable : String := "TSTRUN_DIFF"

/-- A variable that is set to nothing counts as unset. -/
def given (value : Option String) : Option String :=
  value.filter (· ≠ "")

/-- Programs named in the environment are taken as they are. -/
def withEnvironment (settings : Settings) (lookup : String → Option String) : Settings :=
  { settings with
    compiler := (given (lookup compilerVariable)).getD settings.compiler
    diff := (given (lookup diffVariable)).getD settings.diff }

def compileInvocation (settings : Settings) (source : Path) : Invocation :=
  { program := settings.compiler
    arguments := settings.compilerArgs ++ [source.text]
    timeoutMs := settings.timeoutMs
    maxOutputBytes := settings.maxOutputBytes }

def diffInvocation (settings : Settings) (expected generated : Path) : Invocation :=
  { program := settings.diff
    arguments := settings.diffArgs ++ [expected.text, generated.text]
    timeoutMs := settings.timeoutMs
    maxOutputBytes := settings.maxOutputBytes }

end Settings
end FixtureRunner
