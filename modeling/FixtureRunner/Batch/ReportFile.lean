/-
Writing a report to a file.
-/

import FixtureRunner.Batch.Report
import FixtureRunner.Workspace

namespace FixtureRunner.Report

def writeTo (report : Report) (path : Path) : Action Unit := do
  match path.parent? with
  | none => pure ()
  | some above =>
      if above.text ≠ "" then
        Action.makeFolders above
  Action.writeText path report.document

end FixtureRunner.Report
