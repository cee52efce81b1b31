/-
Running fixtures: split, compile, normalize, compare and classify, one after another.
-/

import FixtureRunner.Batch.Report
import FixtureRunner.Batch.StatusLine
import FixtureRunner.Config.Settings
import FixtureRunner.Discovery.Selection
import FixtureRunner.Fixture.Files
import FixtureRunner.Process.Host

namespace FixtureRunner.Batch

variable (host : Host)

/-- Says that the compiler succeeded without writing its file. -/
def withMissingNote (output : ProcessOutput) (generated : Path) : ProcessOutput :=
  { output with
    stderr := output.stderr ++ ("compiler did not produce " ++ generated.text ++ "\n").toList }

def compare (settings : Settings) (mode : RunMode) (artifacts : Artifacts) : Action Outcome := do
  let _ ← settings.normalizer.normalizeFile artifacts.generated
  let compared ← (settings.diffInvocation artifacts.expected artifacts.generated).run host
  if compared.success then
    return .ok
  else if mode = .update then do
    artifacts.rebuild
    return .updated
  else do
    artifacts.writeErrorLog compared
    return .diffMismatch

def compileAndCompare (settings : Settings) (mode : RunMode) (artifacts : Artifacts) :
    Action Outcome := do
  artifacts.discardGenerated
  let compiled ← (settings.compileInvocation artifacts.source).run host
  if !compiled.success then do
    artifacts.writeErrorLog compiled
    return .compileError
  else if !(← Action.disk).isFile artifacts.generated then do
    artifacts.writeErrorLog (withMissingNote compiled artifacts.generated)
    return .compileError
  else
    compare host settings mode artifacts

def classify (settings : Settings) (mode : RunMode) (artifacts : Artifacts) : Action Outcome := do
  match ← artifacts.split with
  | .malformed _ => return .malformed
  | .written => compileAndCompare host settings mode artifacts

/-- Runs one fixture, and removes its artifacts if the mode wants it and it passed. -/
def runFixture (settings : Settings) (mode : RunMode) (path : Path) : Action Outcome := do
  let artifacts := Artifacts.ofFixture path
  let outcome ← classify host settings mode artifacts
  Action.record
    { level := .debug
      source := .executor
      message := "classified"
      fields := [("fixture", .plain path.text), ("outcome", .quoted outcome.label)] }
  if mode.purges && !outcome.isFailure then
    artifacts.purge
  return outcome

/-- Runs the fixtures in order and adds each to the report, its line written first. -/
def runEach (settings : Settings) (mode : RunMode) (width : Nat) :
    List (Path × String) → Report → Action Report
  | [], report => return report
  | (path, name) :: rest, report => do
      let outcome ← runFixture host settings mode path
      Action.emit (StatusLine.line width name outcome)
      runEach settings mode width rest (report.add name outcome)

def info (message : String) (fields : List (String × Log.Value)) : Log.Event :=
  { level := .info, source := .executor, message, fields }

def cleanAll (fixtures : List Path) : Action Report := do
  fixtures.forM fun path => (Artifacts.ofFixture path).purge
  Action.emit ("cleaned " ++ toString fixtures.length ++ " fixtures")
  return { mode := .cleanOnly, cleaned := fixtures.length }

def runAll (root : Path) (fixtures : List Path) (settings : Settings) (mode : RunMode) :
    Action Report := do
  let names := fixtures.map (Discovery.relativeName root)
  let report ←
    runEach host settings mode (StatusLine.width names) (fixtures.zip names) { mode }
  Action.emit report.summaryLine
  Action.record
    (info "batch finished"
      [("passed", .number report.summary.passed), ("failed", .number report.summary.failed)])
  return report

def runBatch (root : Path) (fixtures : List Path) (settings : Settings) (mode : RunMode) :
    Action Report := do
  Action.record
    (info "batch start" [("mode", .quoted mode.name), ("fixtures", .number fixtures.length)])
  if mode = .cleanOnly then cleanAll fixtures
  else if fixtures.isEmpty then return { mode }
  else runAll host root fixtures settings mode

end FixtureRunner.Batch
