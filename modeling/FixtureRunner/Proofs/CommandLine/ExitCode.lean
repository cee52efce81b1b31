/-
Counts and exit codes.

The counts of a report are those of its records in any order.  A run that fails on its way to the
report exits with two; any other one exits with one if and only if a fixture has failed.
-/

import FixtureRunner.Proofs.Batch.Transcript
import FixtureRunner.Proofs.CommandLine.Precedence

namespace FixtureRunner

open FixtureRunner.Action

/-! ### Counts -/

namespace Report

def ofRecords (mode : RunMode) (records : List Record) : Report :=
  records.foldl (fun report record => report.add record.name record.outcome) { mode }

theorem records_ofRecords (mode : RunMode) (records : List Record) :
    (ofRecords mode records).records = records := by
  have areAdded (report : Report) :
      (records.foldl (fun report record => report.add record.name record.outcome) report).records =
        report.records ++ records := by
    induction records generalizing report with
    | nil => exact (List.append_nil _).symm
    | cons record rest ih => rw [List.foldl_cons, ih, add, List.append_assoc, List.singleton_append]
  exact areAdded { mode }

end Report

def Summary.countOf (summary : Summary) : Outcome → Nat
  | .ok => summary.ok
  | .updated => summary.updated
  | .compileError => summary.compileErrors
  | .diffMismatch => summary.diffMismatches
  | .malformed => summary.malformed

/-- The summary tells how many of the records there are, and how many of each kind. -/
structure Summary.Tallies (summary : Summary) (records : List Record) : Prop where
  total : summary.total = records.length
  counts : ∀ outcome, summary.countOf outcome = records.countP (·.outcome = outcome)
  passed : summary.passed = summary.ok + summary.updated
  failed : summary.failed = records.countP (·.outcome.isFailure)
  all : summary.total = summary.passed + summary.failed

theorem countP_isFailure (records : List Record) :
    records.countP (·.outcome.isFailure) = records.countP (·.outcome = .compileError) +
      records.countP (·.outcome = .diffMismatch) + records.countP (·.outcome = .malformed) := by
  induction records with
  | nil => rfl
  | cons record rest ih =>
      simp only [List.countP_cons, ih]
      cases record.outcome <;> simp [Outcome.isFailure] <;> omega

theorem length_eq_counts (records : List Record) :
    records.length = records.countP (·.outcome.isFailure) +
      (records.countP (·.outcome = .ok) + records.countP (·.outcome = .updated)) := by
  induction records with
  | nil => rfl
  | cons record rest ih =>
      simp only [List.countP_cons, List.length_cons, ih]
      cases record.outcome <;> simp [Outcome.isFailure] <;> omega

theorem Report.failed_eq (report : Report) :
    report.failed = report.records.countP (·.outcome.isFailure) :=
  (countP_isFailure report.records).symm

theorem Report.tallies (report : Report) : report.summary.Tallies report.records := by
  have isAll := length_eq_counts report.records
  have isFailed : report.summary.failed = _ := report.failed_eq
  have isPassed : report.summary.passed = report.records.length - report.summary.failed := rfl
  have isTotal : report.summary.total = report.records.length := rfl
  have isOk : report.summary.ok = report.records.countP (·.outcome = .ok) := rfl
  have isUpdated : report.summary.updated = report.records.countP (·.outcome = .updated) := rfl
  refine ⟨isTotal, fun outcome => ?_, by omega, isFailed, by omega⟩
  cases outcome <;> rfl

theorem Report.summary_perm {report other : Report} (same : report.records.Perm other.records) :
    report.summary = other.summary := by
  simp only [summary, count, same.countP_eq, same.length_eq]

/-- A report has a failure if and only if one of the outcomes is one. -/
theorem Report.failed_pos_iff (report : Report) :
    0 < report.failed ↔ ∃ record ∈ report.records, record.outcome.isFailure = true := by
  rw [failed_eq, List.countP_pos_iff]

theorem Outcome.isFailure_iff (outcome : Outcome) :
    outcome.isFailure = true ↔
      outcome = .compileError ∨ outcome = .diffMismatch ∨ outcome = .malformed := by
  cases outcome <;> decide

/-! ### Batches -/

namespace Batch

variable {host : Host} {settings : Settings} {mode : RunMode} {root : Path} {fixtures : List Path}
  {before after : Workspace} {report : Report}

/-- Where fixtures are run one after another, a fixture ends in an outcome. -/
def EndsIn (host : Host) (settings : Settings) (mode : RunMode) (fixtures : List Path) (disk : Disk)
    (path : Path) (outcome : Outcome) : Prop :=
  mode ≠ .cleanOnly ∧
    (path, Except.ok outcome) ∈ fixtures.zip (callEach host settings mode fixtures disk).1

/-- One of the fixtures ends in a failure. -/
def SomeFails (host : Host) (settings : Settings) (mode : RunMode) (fixtures : List Path)
    (disk : Disk) : Prop :=
  ∃ path outcome, EndsIn host settings mode fixtures disk path outcome ∧
    (outcome = .compileError ∨ outcome = .diffMismatch ∨ outcome = .malformed)

/-- The report of a batch that only cleans has no records, and that of any other one has a record
of each fixture. -/
theorem report_of_runBatch
    (ran : (runBatch host root fixtures settings mode).run before = (.ok report, after)) :
    (mode = .cleanOnly ∧ report.records = []) ∨
      (mode ≠ .cleanOnly ∧ ∃ done, fixtures = done.map Prod.fst ∧
        (callEach host settings mode fixtures before.disk).1 = done.map (fun call => .ok call.2) ∧
        report = reportOn mode (Discovery.relativeName root) done) := by
  rw [runBatch, run_bind_ok _ _ (run_record before _)] at ran
  by_cases isClean : mode = .cleanOnly
  · rw [if_pos isClean] at ran
    obtain ⟨_, _, _, ran⟩ := run_bind_eq_ok _ ran
    obtain ⟨_, _, _, ran⟩ := run_bind_eq_ok _ ran
    rw [← Except.ok.inj (Prod.mk.inj ran).1]
    exact Or.inl ⟨isClean, rfl⟩
  · rw [if_neg isClean] at ran
    refine Or.inr ⟨isClean, ?_⟩
    by_cases isEmpty : fixtures = []
    · subst isEmpty
      exact ⟨[], rfl, rfl, (Except.ok.inj (Prod.mk.inj ran).1).symm⟩
    · rw [if_neg (mt List.isEmpty_iff.mp isEmpty)] at ran
      obtain ⟨_, transcript⟩ := runAll_transcript ran
      cases transcript with
      | finished calls _ => exact ⟨_, calls.isAll, congrArg Prod.fst calls.calls, rfl⟩

theorem failed_of_runBatch
    (ran : (runBatch host root fixtures settings mode).run before = (.ok report, after)) :
    0 < report.failed ↔ SomeFails host settings mode fixtures before.disk := by
  rw [report.failed_pos_iff]
  simp only [SomeFails, ← Outcome.isFailure_iff, EndsIn]
  rcases report_of_runBatch ran with ⟨isClean, areNone⟩ | ⟨isRun, done, isAll, calls, rfl⟩
  · simp [areNone, isClean]
  · rw [calls, isAll, List.zip_map']
    simp only [reportOn, List.mem_map]
    constructor
    · rintro ⟨_, ⟨call, isThere, rfl⟩, isFailure⟩
      exact ⟨call.1, call.2, ⟨isRun, call, isThere, rfl⟩, isFailure⟩
    · rintro ⟨path, outcome, ⟨_, call, isThere, isCall⟩, isFailure⟩
      obtain ⟨rfl, isOutcome⟩ := Prod.mk.inj isCall
      obtain rfl := Except.ok.inj isOutcome
      exact ⟨_, ⟨call, isThere, rfl⟩, isFailure⟩

end Batch

theorem Report.read_of_writeTo {report : Report} {path : Path} {before after : Workspace}
    (ran : (report.writeTo path).run before = (.ok (), after)) :
    after.disk.read path = .ok (Text.encode report.document) := by
  have wrote : ∃ between, (writeText path report.document).run between = (.ok (), after) := by
    rw [writeTo] at ran
    cases isAbove : path.parent? with
    | none =>
        rw [isAbove] at ran
        exact ⟨before, ran⟩
    | some above =>
        rw [isAbove] at ran
        dsimp only at ran
        split at ran
        · obtain ⟨_, between, _, wrote⟩ := run_bind_eq_ok _ ran
          exact ⟨between, wrote⟩
        · exact ⟨before, ran⟩
  obtain ⟨between, wrote⟩ := wrote
  exact Disk.read_of_write (run_writeBytes_eq_ok _ wrote)

namespace CommandLine

/-! ### Stages -/

section Stages

variable (host : Host) (options : Options) (environment : Environment)
  (compile : Pattern.Compiler) (before : Workspace)

/-- The batch starts with settings that were loaded and fixtures that were found. -/
inductive Starts : Settings → List Path → Workspace → Prop
  | intro {settings : Settings} {fixtures : List Path} {loaded searched : Workspace}
      (loads : (loadSettings options environment compile).run before = (.ok settings, loaded))
      (finds : (Discovery.discover ⟨options.root⟩ options.fragments).run loaded =
        (.ok fixtures, searched)) :
      Starts settings fixtures { searched with
        log := searched.log ++ [event "selected fixtures"
          [("count", .number fixtures.length), ("mode", .quoted options.mode.name)]] }

/-- One of the stages of a run fails. -/
inductive Fails : Prop
  | loading {fatal : Fatal} {after : Workspace}
      (fails : (loadSettings options environment compile).run before = (.error fatal, after))
  | searching {settings : Settings} {loaded after : Workspace} {failure : Failure}
      (loads : (loadSettings options environment compile).run before = (.ok settings, loaded))
      (fails : (Discovery.discover ⟨options.root⟩ options.fragments).run loaded =
        (.error failure, after))
  | running {settings : Settings} {fixtures : List Path} {ready after : Workspace}
      {failure : Failure}
      (starts : Starts options environment compile before settings fixtures ready)
      (fails : (Batch.runBatch host ⟨options.root⟩ fixtures settings options.mode).run ready =
        (.error failure, after))
  | reporting {settings : Settings} {fixtures : List Path} {ready done after : Workspace}
      {report : Report} {path : String} {failure : Failure}
      (starts : Starts options environment compile before settings fixtures ready)
      (runs : (Batch.runBatch host ⟨options.root⟩ fixtures settings options.mode).run ready =
        (.ok report, done))
      (isAsked : options.reportOut = some path)
      (fails : (report.writeTo ⟨path⟩).run done = (.error failure, after))

/-- The batch has a report, which is the result of the run, and can be read where it was asked
for. -/
def Succeeds : Prop :=
  ∃ settings fixtures ready done report after,
    Starts options environment compile before settings fixtures ready ∧
    (Batch.runBatch host ⟨options.root⟩ fixtures settings options.mode).run ready =
      (.ok report, done) ∧
    (runTask host options environment compile).run before = (.ok report, after) ∧
    ∀ path, options.reportOut = some path →
      after.disk.read ⟨path⟩ = .ok (Text.encode report.document)

end Stages

section Runs

variable {host : Host} {options : Options} {environment : Environment}
  {compile : Pattern.Compiler} {before : Workspace}
  {settings : Settings} {fixtures : List Path} {ready done : Workspace} {report : Report}

def finishTask (host : Host) (options : Options) (settings : Settings) (fixtures : List Path) :
    Task Report := do
  let report ← doing none
    (Batch.runBatch host ⟨options.root⟩ fixtures settings options.mode)
  match options.reportOut with
  | none => return report
  | some path => do
      doing (some ("write report: " ++ path)) (report.writeTo ⟨path⟩)
      return report

theorem runTask_of_starts (host : Host)
    (starts : Starts options environment compile before settings fixtures ready) :
    (runTask host options environment compile).run before =
      (finishTask host options settings fixtures).run ready := by
  cases starts with
  | intro loads finds =>
      rw [runTask, run_bind_ok _ _ loads, run_bind_ok _ _ (run_doing_ok finds),
        run_bind_ok _ _ (run_doing_ok (run_record _ _))]
      rfl

theorem runTask_of_fails (fails : Fails host options environment compile before) :
    ∃ fatal after,
      (runTask host options environment compile).run before = (.error fatal, after) := by
  cases fails with
  | loading fails =>
      rw [runTask, run_bind_error _ _ fails]
      exact ⟨_, _, rfl⟩
  | searching loads fails =>
      rw [runTask, run_bind_ok _ _ loads, run_bind_error _ _ (run_doing_error fails)]
      exact ⟨_, _, rfl⟩
  | running starts fails =>
      rw [runTask_of_starts host starts, finishTask, run_bind_error _ _ (run_doing_error fails)]
      exact ⟨_, _, rfl⟩
  | reporting starts runs isAsked fails =>
      rw [runTask_of_starts host starts, finishTask, run_bind_ok _ _ (run_doing_ok runs), isAsked]
      dsimp only
      rw [run_bind_error _ _ (run_doing_error fails)]
      exact ⟨_, _, rfl⟩

theorem cases_of_starts
    (starts : Starts options environment compile before settings fixtures ready) :
    Fails host options environment compile before ∨
      Succeeds host options environment compile before := by
  rcases runs : (Batch.runBatch host ⟨options.root⟩ fixtures settings options.mode).run ready with
    ⟨failure | report, done⟩
  · exact Or.inl (.running starts runs)
  · have ran := runTask_of_starts host starts
    rw [finishTask, run_bind_ok _ _ (run_doing_ok runs)] at ran
    cases isAsked : options.reportOut with
    | none =>
        rw [isAsked] at ran
        exact Or.inr ⟨settings, fixtures, ready, done, report, done, starts, runs, ran,
          by simp [isAsked]⟩
    | some path =>
        rw [isAsked] at ran
        dsimp only at ran
        rcases writes : (report.writeTo ⟨path⟩).run done with ⟨failure | _, after⟩
        · exact Or.inl (.reporting starts runs isAsked writes)
        · rw [run_bind_ok _ _ (run_doing_ok writes)] at ran
          refine Or.inr ⟨settings, fixtures, ready, done, report, after, starts, runs, ran, ?_⟩
          intro asked isSame
          rw [← Option.some.inj (isAsked.symm.trans isSame)]
          exact report.read_of_writeTo writes

/-- A run fails at one of its stages, or its batch has a report, which is written where it was
asked for. -/
theorem runTask_cases (host : Host) (options : Options) (environment : Environment)
    (compile : Pattern.Compiler) (before : Workspace) :
    Fails host options environment compile before ∨
      Succeeds host options environment compile before := by
  rcases loads : (loadSettings options environment compile).run before with
    ⟨fatal | settings, loaded⟩
  · exact Or.inl (.loading loads)
  · rcases finds : (Discovery.discover ⟨options.root⟩ options.fragments).run loaded with
      ⟨failure | fixtures, searched⟩
    · exact Or.inl (.searching loads finds)
    · exact cases_of_starts (.intro loads finds)

/-- A run exits with two if it fails.  Otherwise it exits with one or zero, as a fixture fails or
none does. -/
theorem code_cases {arguments : List String} {disk : Disk} {console : Console} {finish : Finish}
    (isParsed : parse arguments = .ok options) (isStart : before = { disk, console })
    (ran : run host arguments environment disk console compile = finish) :
    (Fails host options environment compile before ∧ finish.code = 2) ∨
      (¬ Fails host options environment compile before ∧ ∃ settings fixtures ready done report,
        Starts options environment compile before settings fixtures ready ∧
        (Batch.runBatch host ⟨options.root⟩ fixtures settings options.mode).run ready =
          (.ok report, done) ∧
        finish.code = (if 0 < report.failed then 1 else 0) ∧
        ∀ path, options.reportOut = some path →
          finish.disk.read ⟨path⟩ = .ok (Text.encode report.document)) := by
  rw [run, isParsed] at ran
  dsimp only at ran
  rw [← isStart] at ran
  by_cases fails : Fails host options environment compile before
  · obtain ⟨fatal, after, isRun⟩ := runTask_of_fails fails
    rw [isRun] at ran
    exact Or.inl ⟨fails, ran ▸ rfl⟩
  · obtain ⟨settings, fixtures, ready, done, report, after, starts, runs, isRun, reads⟩ :=
      (runTask_cases host options environment compile _).resolve_left fails
    rw [isRun] at ran
    exact Or.inr ⟨fails, settings, fixtures, ready, done, report, starts, runs, ran ▸ rfl,
      ran ▸ reads⟩

end Runs

/-- The counts of a report are those of its records in any order.  The exit code is two if and only
if a stage of the run fails.  Otherwise it is one if a fixture fails, which it cannot do where
fixtures are only cleaned, and zero if not, and a report that was asked for has been written. -/
theorem counts_and_exitCode :
    (∀ mode records, (Report.ofRecords mode records).summary.Tallies records ∧
      ∀ others, records.Perm others →
        (Report.ofRecords mode records).summary = (Report.ofRecords mode others).summary) ∧
    ∀ host arguments environment disk console compile options finish,
      parse arguments = .ok options →
      run host arguments environment disk console compile = finish →
      (finish.code = 2 ↔ Fails host options environment compile { disk, console }) ∧
      (¬ Fails host options environment compile { disk, console } →
        ∃ settings fixtures ready done report,
        Starts options environment compile { disk, console } settings fixtures ready ∧
        (Batch.runBatch host ⟨options.root⟩ fixtures settings options.mode).run ready =
          (.ok report, done) ∧
        (finish.code = 1 ↔ Batch.SomeFails host settings options.mode fixtures ready.disk) ∧
        (finish.code = 0 ↔ ¬ Batch.SomeFails host settings options.mode fixtures ready.disk) ∧
        ∀ path, options.reportOut = some path →
          finish.disk.read ⟨path⟩ = .ok (Text.encode report.document)) ∧
      (options.mode = .cleanOnly → finish.code ≠ 1) := by
  refine ⟨fun mode records => ⟨?_, fun others same => ?_⟩, ?_⟩
  · have tallies := (Report.ofRecords mode records).tallies
    rwa [Report.records_ofRecords] at tallies
  · refine Report.summary_perm ?_
    rwa [Report.records_ofRecords, Report.records_ofRecords]
  · intro host arguments environment disk console compile options finish isParsed ran
    rcases code_cases isParsed rfl ran with ⟨fails, isTwo⟩ |
      ⟨succeeds, settings, fixtures, ready, done, report, starts, runs, isCode, reads⟩
    · exact ⟨iff_of_true isTwo fails, fun succeeds => absurd fails succeeds, fun _ => by omega⟩
    · have isFailed := Batch.failed_of_runBatch runs
      refine ⟨iff_of_false ?_ succeeds, fun _ => ⟨settings, fixtures, ready, done, report, starts,
        runs, ?_, ?_, reads⟩, fun isClean => ?_⟩
      · split at isCode <;> omega
      · rw [← isFailed]
        split at isCode <;> omega
      · rw [← isFailed]
        split at isCode <;> omega
      · have isNone : ¬ 0 < report.failed := by
          rw [isFailed]
          rintro ⟨_, _, ⟨isRun, _⟩, _⟩
          exact isRun isClean
        rw [if_neg isNone] at isCode
        omega

def malformedDisk : Disk := (Disk.empty ["work"]).put ["work", "a.tst"] (.file [] false)

theorem counts_and_exitCode_malformed :
    ∃ settings fixtures ready done report,
      Starts { reportOut := some "out/r.json" } [] Pattern.compile { disk := malformedDisk }
        settings fixtures ready ∧
      (Batch.runBatch (Batch.siblingHost id) ⟨"."⟩ fixtures settings .clean).run ready =
        (.ok report, done) ∧
      Batch.SomeFails (Batch.siblingHost id) settings .clean fixtures ready.disk ∧
      (run (Batch.siblingHost id) ["--report-out", "out/r.json"] [] malformedDisk).disk.read
        ⟨"out/r.json"⟩ = .ok (Text.encode report.document) := by
  have isOne : (run (Batch.siblingHost id) ["--report-out", "out/r.json"] [] malformedDisk).code =
      1 := by
    decide +kernel
  obtain ⟨isTwo, succeeds, _⟩ := counts_and_exitCode.2 (Batch.siblingHost id)
    ["--report-out", "out/r.json"] [] malformedDisk {} Pattern.compile
    { reportOut := some "out/r.json" } _ (by decide +kernel) rfl
  rw [isOne] at isTwo succeeds
  obtain ⟨settings, fixtures, ready, done, report, starts, runs, fails, _, reads⟩ :=
    succeeds (mt isTwo.mpr (by decide))
  exact ⟨settings, fixtures, ready, done, report, starts, runs, fails.mp rfl, reads _ rfl⟩

end CommandLine

end FixtureRunner
