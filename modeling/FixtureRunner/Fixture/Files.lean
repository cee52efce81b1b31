/-
Actions on the files of a fixture.
-/

import FixtureRunner.Fixture.Artifacts
import FixtureRunner.Fixture.Sections
import FixtureRunner.Process.Output
import FixtureRunner.Workspace

namespace FixtureRunner

/-- The result of splitting a fixture: both sections written, or nothing because the
fixture has another number of sections. -/
inductive Split where
  | written
  | malformed (sections : Nat)
deriving DecidableEq

namespace Artifacts

open FixtureRunner.Action

def event (artifacts : Artifacts) (message : String) (fields : List (String × Log.Value)) :
    Log.Event :=
  { level := .debug
    source := .fixture
    message
    fields := ("fixture", .plain artifacts.fixture.text) :: fields }

def split (artifacts : Artifacts) : Action Split := do
  match Fixture.sections (← readText artifacts.fixture) with
  | [source, expected] => do
      writeText artifacts.source source
      writeText artifacts.expected expected
      record (artifacts.event "split fixture" [])
      return .written
  | sections => do
      record (artifacts.event "malformed fixture" [("sections", .number sections.length)])
      return .malformed sections.length

def rebuild (artifacts : Artifacts) : Action Unit := do
  let source ← readText artifacts.source
  let generated ← readText artifacts.generated
  writeText artifacts.fixture (Fixture.assemble source generated)
  record (artifacts.event "rebuilt fixture" [])

def purge (artifacts : Artifacts) : Action Unit := do
  artifacts.derived.forM removeIfPresent
  record (artifacts.event "purged artifacts" [])

def discardGenerated (artifacts : Artifacts) : Action Unit :=
  removeIfPresent artifacts.generated

def timeoutNote : Text := "\n[tstrun] process killed after timeout\n".toList

def truncationNote : Text := "\n[tstrun] captured output truncated\n".toList

/-- What a failed step said, errors first, with notes on what was cut short. -/
def errorText (output : ProcessOutput) : Text :=
  output.stderr ++ output.stdout ++
    (if output.timedOut then timeoutNote else []) ++
    (if output.stderrTruncated || output.stdoutTruncated then truncationNote else [])

def writeErrorLog (artifacts : Artifacts) (output : ProcessOutput) : Action Unit :=
  writeText artifacts.errorLog (errorText output)

end Artifacts

/-- Normalizes a file in place, and tells whether it changed. -/
def Normalizer.normalizeFile (normalizer : Normalizer) (path : Path) : Action Bool := do
  let raw ← Action.readBytes path
  let normalized := Text.encode (normalizer.normalize (Text.decode raw))
  if normalized = raw then
    return false
  else do
    Action.writeBytes path normalized
    Action.record
      { level := .debug
        source := .normalize
        message := "normalized generated output"
        fields := [("path", .plain path.text)] }
    return true

end FixtureRunner
