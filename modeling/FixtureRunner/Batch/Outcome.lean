/-
What a batch does to its fixtures and how each of them can end.
-/

namespace FixtureRunner

inductive RunMode where
  | clean
  | cleanOnly
  /-- Run, and replace the expectation of every fixture that differs. -/
  | update
  | dump
deriving DecidableEq

namespace RunMode

def name : RunMode → String
  | .clean => "run-clean"
  | .cleanOnly => "clean-only"
  | .update => "run-update"
  | .dump => "run-dump"

def all : List RunMode := [.clean, .cleanOnly, .update, .dump]

def ofName? (text : String) : Option RunMode :=
  all.find? (·.name = text)

def purges : RunMode → Bool
  | .clean => true
  | .update => true
  | .cleanOnly => false
  | .dump => false

end RunMode

inductive Outcome where
  | ok
  | compileError
  | diffMismatch
  | updated
  | malformed
deriving DecidableEq

namespace Outcome

def name : Outcome → String
  | .ok => "ok"
  | .compileError => "compile-error"
  | .diffMismatch => "diff-mismatch"
  | .updated => "updated"
  | .malformed => "malformed"

def all : List Outcome := [.ok, .compileError, .diffMismatch, .updated, .malformed]

def ofName? (text : String) : Option Outcome :=
  all.find? (·.name = text)

def label : Outcome → String
  | .ok => "[ok]"
  | .compileError => "[compile error]"
  | .diffMismatch => "[output differs]"
  | .updated => "[updated]"
  | .malformed => "[missing section]"

def isFailure : Outcome → Bool
  | .ok => false
  | .updated => false
  | .compileError => true
  | .diffMismatch => true
  | .malformed => true

end Outcome
end FixtureRunner
