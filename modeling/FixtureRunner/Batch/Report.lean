/-
The report of a batch: which fixture ended how, the counts, and both as JSON.
-/

import FixtureRunner.Batch.Outcome
import FixtureRunner.Json.Value

namespace FixtureRunner

structure Record where
  /-- The fixture's name relative to the root of the search. -/
  name : String
  outcome : Outcome
deriving DecidableEq

structure Report where
  mode : RunMode
  records : List Record := []
  /-- How many fixtures a clean-only batch has cleaned. -/
  cleaned : Nat := 0
deriving DecidableEq

structure Summary where
  total : Nat
  passed : Nat
  failed : Nat
  ok : Nat
  updated : Nat
  compileErrors : Nat
  diffMismatches : Nat
  malformed : Nat
deriving DecidableEq

namespace Report

def add (report : Report) (name : String) (outcome : Outcome) : Report :=
  { report with records := report.records ++ [⟨name, outcome⟩] }

def count (report : Report) (outcome : Outcome) : Nat :=
  report.records.countP (·.outcome = outcome)

def summary (report : Report) : Summary :=
  let total := report.records.length
  let compileErrors := report.count .compileError
  let diffMismatches := report.count .diffMismatch
  let malformed := report.count .malformed
  let failed := compileErrors + diffMismatches + malformed
  { total
    passed := total - failed
    failed
    ok := report.count .ok
    updated := report.count .updated
    compileErrors
    diffMismatches
    malformed }

def failed (report : Report) : Nat :=
  report.summary.failed

def summaryLine (report : Report) : String :=
  toString report.summary.passed ++ " / " ++ toString report.summary.total ++ " tests passed"

/-! ### JSON -/

def schemaVersion : String := "tstrun.report@0.1.0"

def toolName : String := "tstrun"

def toolVersion : String := "0.1.0"

def summaryJson (summary : Summary) : Json :=
  .object
    [("total", .number summary.total),
     ("passed", .number summary.passed),
     ("failed", .number summary.failed),
     ("ok", .number summary.ok),
     ("updated", .number summary.updated),
     ("compile_errors", .number summary.compileErrors),
     ("diff_mismatches", .number summary.diffMismatches),
     ("malformed", .number summary.malformed)]

def recordJson (record : Record) : Json :=
  .object [("path", .string record.name), ("outcome", .string record.outcome.name)]

def json (report : Report) : Json :=
  .object
    [("schema_version", .string schemaVersion),
     ("tool", .object [("name", .string toolName), ("version", .string toolVersion)]),
     ("mode", .string report.mode.name),
     ("summary", summaryJson report.summary),
     ("cleaned", .number report.cleaned),
     ("fixtures", .array (report.records.map recordJson))]

def document (report : Report) : Text :=
  report.json.render ++ ['\n']

end Report
end FixtureRunner
