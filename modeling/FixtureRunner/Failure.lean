/-
Failures that end a whole batch.  What goes wrong with a single fixture is an outcome,
not a failure.
-/

import FixtureRunner.Config.Document
import FixtureRunner.Disk.SystemError
import FixtureRunner.Normalizer
import FixtureRunner.Path.Basic

namespace FixtureRunner

inductive ConfigProblem where
  | unreadable (fault : Json.Fault)
  | otherVersion (version : String)
  | badPattern (bad : BadPattern)
deriving DecidableEq

def ConfigProblem.message : ConfigProblem → String
  | .unreadable fault => "parse JSON: " ++ fault.message
  | .otherVersion version =>
      "schema_version mismatch: expected " ++ Config.currentVersion ++ " got " ++
        String.ofList (Text.quoted version.toList)
  | .badPattern bad => "invalid normalize pattern: " ++ bad.message

/-- A program could not be started, or it was started and could not be waited for. -/
inductive ProcessError where
  | start (cause : SystemError)
  | wait (cause : SystemError)
deriving DecidableEq

inductive Failure where
  | launch (program : String) (error : ProcessError)
  | access (path : Path) (cause : SystemError)
  | config (path : Path) (problem : ConfigProblem)
  /-- The root of a search is no folder. -/
  | discovery (root : Path)
deriving DecidableEq

namespace Failure

def message : Failure → String
  | .launch program (.start _) => "failed to launch " ++ program
  | .launch program (.wait _) => "failed to wait for " ++ program
  | .access path _ => path.text
  | .config path problem => "invalid config " ++ path.text ++ ": " ++ problem.message
  | .discovery root => "cannot discover fixtures under " ++ root.text ++ ": not a directory"

def cause? : Failure → Option SystemError
  | .launch _ (.start cause) | .launch _ (.wait cause) => some cause
  | .access _ cause => some cause
  | .config _ _ => none
  | .discovery _ => none

/-- The messages from the failure down to its cause. -/
def chain (failure : Failure) : List String :=
  failure.message :: (failure.cause?.map SystemError.message).toList

end Failure
end FixtureRunner
