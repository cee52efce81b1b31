/-
How far a batch gets.

A batch runs its fixtures in order.  It comes to an end when all have been run, when the
console refuses a line, or when a fixture fails; the fixtures after that are not reached.
-/

import FixtureRunner.Batch.Run
import FixtureRunner.Proofs.Workspace
import Mathlib.Data.List.Basic

namespace FixtureRunner

open FixtureRunner.Action

/-- The report with a record of each fixture that has been run. -/
def Report.addAll (report : Report) (name : Path → String) (done : List (Path × Outcome)) :
    Report :=
  { report with
    records := report.records ++ done.map fun (path, outcome) => ⟨name path, outcome⟩ }

theorem Report.addAll_nil (report : Report) (name : Path → String) :
    report.addAll name [] = report := by
  simp [addAll]

theorem Report.addAll_add (report : Report) (name : Path → String) (path : Path)
    (outcome : Outcome) (later : List (Path × Outcome)) :
    (report.add (name path) outcome).addAll name later =
      report.addAll name ((path, outcome) :: later) := by
  simp [addAll, add]

namespace Batch

/-- Running a fixture on a disk has a result and leaves a disk, whatever was recorded before. -/
def Runs (host : Host) (settings : Settings) (mode : RunMode) (path : Path) (before : Disk)
    (result : Except Failure Outcome) (after : Disk) : Prop :=
  ∃ first last : Workspace, first.disk = before ∧ last.disk = after ∧
    (runFixture host settings mode path).run first = (result, last)

section Passages

variable (host : Host) (settings : Settings) (mode : RunMode)

/-- Fixtures are run one after another, and each returns an outcome. -/
inductive Passage : Disk → List (Path × Outcome) → Disk → Prop
  | start (disk : Disk) : Passage disk [] disk
  | run {path : Path} {outcome : Outcome} {before between after : Disk}
      {later : List (Path × Outcome)}
      (runs : Runs host settings mode path before (.ok outcome) between)
      (further : Passage between later after) : Passage before ((path, outcome) :: later) after

/-- What comes of a batch once some of its fixtures have been run. -/
inductive Ending (complete : Report) (reached : Disk) (unreached : List Path) :
    Except Failure Report → Disk → Prop
  | finished (isEnd : unreached = []) : Ending complete reached unreached (.ok complete) reached
  | refused {failure : Failure} : Ending complete reached unreached (.error failure) reached
  | failed {path : Path} {later : List Path} {failure : Failure} {left : Disk}
      (isNext : unreached = path :: later)
      (fails : Runs host settings mode path reached (.error failure) left) :
      Ending complete reached unreached (.error failure) left

end Passages

section Runs

variable {host : Host} {settings : Settings} {mode : RunMode}

theorem runEach_passes (name : Path → String) (width : Nat) (fixtures : List Path)
    (report : Report) {before after : Workspace} {result : Except Failure Report}
    (ran : (runEach host settings mode width (fixtures.map fun path => (path, name path))
      report).run before = (result, after)) :
    ∃ done unreached reached, fixtures = done.map Prod.fst ++ unreached ∧
      Passage host settings mode before.disk done reached ∧
      Ending host settings mode (report.addAll name done) reached unreached result after.disk := by
  induction fixtures generalizing report before with
  | nil =>
      obtain ⟨rfl, rfl⟩ := Prod.mk.inj ran
      refine ⟨[], [], before.disk, rfl, .start before.disk, ?_⟩
      rw [Report.addAll_nil]
      exact .finished rfl
  | cons path rest ih =>
      rw [List.map_cons, runEach, run_bind] at ran
      cases ranFixture : (runFixture host settings mode path).run before with
      | mk returned between =>
          rw [ranFixture] at ran
          cases returned with
          | error failure =>
              obtain ⟨rfl, rfl⟩ := Prod.mk.inj ran
              exact ⟨[], path :: rest, before.disk, rfl, .start before.disk,
                .failed rfl ⟨before, between, rfl, rfl, ranFixture⟩⟩
          | ok outcome =>
              have runs : Runs host settings mode path before.disk (.ok outcome) between.disk :=
                ⟨before, between, rfl, rfl, ranFixture⟩
              simp only [run_bind, run_emit] at ran
              split at ran
              · rename_i value shown isShown
                obtain ⟨_, rfl⟩ := Prod.mk.inj isShown
                obtain ⟨done, unreached, reached, rfl, passage, ending⟩ := ih _ ran
                rw [Report.addAll_add] at ending
                exact ⟨(path, outcome) :: done, unreached, reached, rfl, .run runs passage, ending⟩
              · rename_i failure shown isShown
                obtain ⟨_, rfl⟩ := Prod.mk.inj isShown
                obtain ⟨rfl, rfl⟩ := Prod.mk.inj ran
                exact ⟨[(path, outcome)], rest, between.disk, rfl, .run runs (.start _), .refused⟩

theorem runBatch_passes {root : Path} {fixtures : List Path} {before after : Workspace}
    {result : Except Failure Report} (isRun : mode ≠ .cleanOnly)
    (ran : (runBatch host root fixtures settings mode).run before = (result, after)) :
    ∃ done unreached reached, fixtures = done.map Prod.fst ++ unreached ∧
      Passage host settings mode before.disk done reached ∧
      Ending host settings mode
        (Report.addAll { mode } (Discovery.relativeName root) done) reached unreached result
        after.disk := by
  rw [runBatch, run_bind_ok _ _ (run_record before _), if_neg isRun] at ran
  split at ran
  · rename_i isEmpty
    obtain rfl := List.isEmpty_iff.mp isEmpty
    obtain ⟨rfl, rfl⟩ := Prod.mk.inj ran
    refine ⟨[], [], before.disk, rfl, .start before.disk, ?_⟩
    rw [Report.addAll_nil]
    exact .finished rfl
  · rw [runAll, ← List.map_prod_left_eq_zip, run_bind] at ran
    split at ran
    · rename_i report left ranEach
      obtain ⟨done, unreached, reached, isCut, passage, ending⟩ := runEach_passes _ _ _ _ ranEach
      refine ⟨done, unreached, reached, isCut, passage, ?_⟩
      generalize isLeft : left.disk = leftDisk at ending
      cases ending with
      | finished isEnd =>
          simp only [run_bind, run_emit, run_record, run_pure] at ran
          split at ran
          · rename_i shown isShown
            obtain ⟨_, rfl⟩ := Prod.mk.inj isShown
            obtain ⟨rfl, rfl⟩ := Prod.mk.inj ran
            rw [← isLeft]
            exact .finished isEnd
          · rename_i failure shown isShown
            obtain ⟨_, rfl⟩ := Prod.mk.inj isShown
            obtain ⟨rfl, rfl⟩ := Prod.mk.inj ran
            rw [← isLeft]
            exact .refused
    · rename_i failure left ranEach
      obtain ⟨rfl, rfl⟩ := Prod.mk.inj ran
      have passes := runEach_passes _ _ _ _ ranEach
      exact passes

end Runs

end Batch
end FixtureRunner
