/-
Events that a run records about itself, and their lines.
-/

import FixtureRunner.Text.Quoted

namespace FixtureRunner.Log

/-- From the most to the least talkative. -/
inductive Level where
  | trace
  | debug
  | info
  | warn
  | error
deriving DecidableEq

namespace Level

def name : Level → String
  | .trace => "TRACE"
  | .debug => "DEBUG"
  | .info => "INFO"
  | .warn => "WARN"
  | .error => "ERROR"

def rank : Level → Nat
  | .error => 1
  | .warn => 2
  | .info => 3
  | .debug => 4
  | .trace => 5

end Level

inductive Value where
  | plain (text : String)
  | quoted (text : String)
  | number (value : Nat)
deriving DecidableEq

def Value.text : Value → String
  | .plain text => text
  | .quoted text => String.ofList (Text.quoted text.toList)
  | .number value => toString value

inductive Source where
  | commandLine
  | fixture
  | normalize
  | discover
  | process
  | executor
deriving DecidableEq

def Source.name : Source → String
  | .commandLine => "tstrun"
  | .fixture => "tstrun_core::fixture"
  | .normalize => "tstrun_core::normalize"
  | .discover => "tstrun_core::discover"
  | .process => "tstrun_core::process"
  | .executor => "tstrun_core::executor"

structure Event where
  level : Level
  source : Source
  message : String
  fields : List (String × Value) := []
deriving DecidableEq

def Event.line (event : Event) : String :=
  event.level.name ++ " " ++ event.source.name ++ ": " ++ event.message ++
    String.join (event.fields.map fun field => " " ++ field.1 ++ "=" ++ field.2.text)

end FixtureRunner.Log
