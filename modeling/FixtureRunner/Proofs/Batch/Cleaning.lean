/-
Cleaning undoes running.

Cleaning a batch removes the derived files of its fixtures, and no others.  A batch that was
run before has altered nothing else, wherever it has stopped, so cleaning afterwards leaves
what cleaning alone would have left.
-/

import FixtureRunner.Proofs.Batch.Effects

namespace FixtureRunner

open FixtureRunner.Action

/-! ### Actions that remove -/

namespace Action

/-- The action removes what some paths name, in order.  It succeeds where that is possible, and
nowhere else. -/
structure Clears (action : Action Unit) (paths : List Path) : Prop where
  succeeds : ∀ (workspace : Workspace) (smaller : Disk),
    Disk.Removal paths workspace.disk smaller →
      ∃ log, action.run workspace = (.ok (), { workspace with disk := smaller, log := log })
  removal : ∀ (workspace after : Workspace), action.run workspace = (.ok (), after) →
    Disk.Removal paths workspace.disk after.disk

theorem Clears.bind {first second : Action Unit} {paths others : List Path}
    (clearsFirst : Clears first paths) (clearsSecond : Clears second others) :
    Clears (first >>= fun _ => second) (paths ++ others) := by
  constructor
  · intro workspace smaller removal
    obtain ⟨between, begins, goesOn⟩ := removal.split
    obtain ⟨log, ran⟩ := clearsFirst.succeeds workspace between begins
    obtain ⟨finalLog, ranOn⟩ :=
      clearsSecond.succeeds { workspace with disk := between, log := log } smaller goesOn
    exact ⟨finalLog, by rw [run_bind_ok _ _ ran, ranOn]⟩
  · intro workspace after ran
    obtain ⟨_, between, ranFirst, ranSecond⟩ := run_bind_eq_ok _ ran
    exact (clearsFirst.removal workspace between ranFirst).append
      (clearsSecond.removal between after ranSecond)

theorem clears_pure : Clears (pure ()) [] := by
  constructor
  · rintro workspace smaller ⟨⟩
    exact ⟨workspace.log, rfl⟩
  · intro workspace after ran
    obtain ⟨_, rfl⟩ := Prod.mk.inj ran
    exact .done _

theorem clears_record (event : Log.Event) : Clears (record event) [] := by
  constructor
  · rintro workspace smaller ⟨⟩
    exact ⟨_, run_record workspace event⟩
  · intro workspace after ran
    rw [run_record] at ran
    obtain ⟨_, rfl⟩ := Prod.mk.inj ran
    exact .done _

theorem clears_removeIfPresent (path : Path) : Clears (removeIfPresent path) [path] := by
  constructor
  · intro workspace smaller removal
    cases removal with
    | step removes further =>
        cases further
        refine ⟨workspace.log, ?_⟩
        rcases removes with removed | ⟨isMissing, rfl⟩
        · rw [run_removeIfPresent, removed]
        · rw [run_removeIfPresent, isMissing]
          rfl
  · intro workspace after ran
    refine .step ?_ (.done after.disk)
    rw [run_removeIfPresent] at ran
    cases removed : workspace.disk.remove path with
    | ok disk =>
        rw [removed] at ran
        obtain ⟨_, rfl⟩ := Prod.mk.inj ran
        exact Or.inl removed
    | error cause =>
        simp only [removed] at ran
        split at ran
        · rename_i isMissing
          obtain ⟨_, rfl⟩ := Prod.mk.inj ran
          exact Or.inr ⟨isMissing ▸ removed, rfl⟩
        · cases (Prod.mk.inj ran).1

theorem clears_forM {α : Type} {action : α → Action Unit} {paths : α → List Path}
    (clears : ∀ item, Clears (action item) (paths item)) (items : List α) :
    Clears (items.forM action) (items.flatMap paths) := by
  induction items with
  | nil => exact clears_pure
  | cons item rest ih => exact (clears item).bind ih

end Action

theorem Artifacts.purge_clears (artifacts : Artifacts) :
    Clears artifacts.purge artifacts.derived := by
  have clears := (clears_forM clears_removeIfPresent artifacts.derived).bind
    (clears_record (artifacts.event "purged artifacts" []))
  rw [List.append_nil, List.flatMap_singleton'] at clears
  exact clears

namespace Batch

/-! ### Cleaning a batch -/

section Clean

variable (host : Host) (root : Path) (settings : Settings) {fixtures : List Path}

theorem purgeAll_clears (fixtures : List Path) :
    Clears (fixtures.forM fun path => (Artifacts.ofFixture path).purge) (derivedPaths fixtures) :=
  clears_forM (fun path => (Artifacts.ofFixture path).purge_clears) fixtures

/-- Once everything is removed, it is up to the console whether cleaning succeeds. -/
theorem run_clean (workspace : Workspace) {smaller : Disk}
    (removal : Disk.Removal (derivedPaths fixtures) workspace.disk smaller) :
    ∃ log, (runBatch host root fixtures settings .cleanOnly).run workspace =
      (emit ("cleaned " ++ toString fixtures.length ++ " fixtures") >>= fun _ =>
        pure { mode := .cleanOnly, cleaned := fixtures.length }).run
          { workspace with disk := smaller, log := log } := by
  obtain ⟨log, purged⟩ := (purgeAll_clears fixtures).succeeds { workspace with
    log := workspace.log ++ [info "batch start"
      [("mode", .quoted RunMode.cleanOnly.name), ("fixtures", .number fixtures.length)]] }
    smaller removal
  refine ⟨log, ?_⟩
  rw [runBatch, run_bind_ok _ _ (run_record workspace _), if_pos rfl, cleanAll,
    run_bind_ok _ _ purged]

variable {host root settings} {workspace cleaned : Workspace} {report : Report}

theorem removal_of_clean
    (cleans : (runBatch host root fixtures settings .cleanOnly).run workspace =
      (.ok report, cleaned)) :
    Disk.Removal (derivedPaths fixtures) workspace.disk cleaned.disk := by
  rw [runBatch, run_bind_ok _ _ (run_record workspace _), if_pos rfl] at cleans
  obtain ⟨_, left, purged, goesOn⟩ := run_bind_eq_ok _ cleans
  have removal := (purgeAll_clears fixtures).removal _ left purged
  obtain ⟨_, shown, emitted, returned⟩ := run_bind_eq_ok _ goesOn
  rw [run_emit] at emitted
  obtain ⟨_, rfl⟩ := Prod.mk.inj emitted
  obtain ⟨_, rfl⟩ := Prod.mk.inj returned
  exact removal

/-- Cleaning that succeeds on one disk succeeds on any other where the removals are possible. -/
theorem clean_of_removal {first second smaller : Disk}
    (cleans : (runBatch host root fixtures settings .cleanOnly).run
      { workspace with disk := first } = (.ok report, cleaned))
    (removal : Disk.Removal (derivedPaths fixtures) second smaller) :
    ∃ again, (runBatch host root fixtures settings .cleanOnly).run
        { workspace with disk := second } = (.ok report, again) ∧ again.disk = smaller := by
  obtain ⟨firstLog, ranFirst⟩ := run_clean host root settings _ (removal_of_clean cleans)
  obtain ⟨log, ran⟩ := run_clean host root settings { workspace with disk := second } removal
  rw [ranFirst, run_bind, run_emit] at cleans
  rw [ran, run_bind, run_emit]
  cases accepted : (workspace.console.writeLine
      ("cleaned " ++ toString fixtures.length ++ " fixtures").toList).1 with
  | some cause =>
      simp only [accepted] at cleans
      cases (Prod.mk.inj cleans).1
  | none =>
      simp only [accepted, run_pure] at cleans ⊢
      rw [(Prod.mk.inj cleans).1]
      exact ⟨_, rfl, rfl⟩

end Clean

/-! ### Cleaning after a run -/

section AfterRun

variable {before after smaller : Disk}

theorem derived_open {path : Path} {folder : Location} {name : String}
    (isFixture : path.isFixture = true) (leads : before.Leads path folder name)
    (noFolders : ∀ derived ∈ (Artifacts.ofFixture path).derived, before.NoFolder derived) :
    ∀ derived ∈ (Artifacts.ofFixture path).derived, ∃ folder name,
      before.route .edit derived = .ok (.name folder name false) ∧
        before.entryAt? (folder ++ [name]) ≠ some .folder := by
  intro derived member
  have noFolder := noFolders derived member
  obtain ⟨role, isDerived, rfl⟩ := Artifacts.mem_derived_iff.mp member
  rcases Disk.leads_or_folders isFixture leads with ⟨home, leadsAll⟩ | folders
  · exact ⟨home.folder, home.name role, (leadsAll role).route_edit,
      noFolder.isOpen (leadsAll role).placeOf?⟩
  · obtain ⟨location, routed⟩ := folders role isDerived
    obtain ⟨_, _, _, isSpot, _⟩ := noFolder _ (routed .edit)
    cases isSpot

/-- Cleaning is possible after fixtures were tried, and leaves the same but for new contents. -/
theorem removal_of_alters {tried updated : List Path}
    (areFixtures : ∀ path ∈ tried, path.isFixture = true)
    (noLinks : ∀ path ∈ derivedPaths tried, before.isLink path = false)
    (alters : before.Alters (derivedPaths tried) updated after)
    (leads : ∀ path ∈ tried, ∃ folder name, before.Leads path folder name)
    (removal : Disk.Removal (derivedPaths tried) before smaller) :
    ∃ again, Disk.Removal (derivedPaths tried) after again ∧
      smaller.SameButContents updated again := by
  have areOpen : ∀ derived ∈ derivedPaths tried, ∃ folder name,
      before.route .edit derived = .ok (.name folder name false) ∧
        before.entryAt? (folder ++ [name]) ≠ some .folder := by
    intro derived member
    obtain ⟨path, isTried, isDerived⟩ := List.mem_flatMap.mp member
    obtain ⟨folder, name, pathLeads⟩ := leads path isTried
    exact derived_open (areFixtures path isTried) pathLeads (fun other isOther =>
      removal.noFolder noLinks (mem_derivedPaths_of_mem isTried isOther)) derived isDerived
  obtain ⟨again, removalAgain⟩ := alters.exists_removal noLinks areOpen
  exact ⟨again, removalAgain, alters.sameButContents noLinks removal removalAgain⟩

theorem removal_of_stop {tried rest : List Path}
    (areFixtures : ∀ path ∈ tried, path.isFixture = true)
    (noLinks : ∀ path ∈ derivedPaths tried, before.isLink path = false)
    (alters : before.Alters (derivedPaths tried) [] after)
    (leads : ∀ path ∈ tried, ∃ folder name, before.Leads path folder name)
    (removal : Disk.Removal (derivedPaths (tried ++ rest)) before smaller) :
    ∃ again, Disk.Removal (derivedPaths (tried ++ rest)) after again ∧
      smaller.SameExcept [] again := by
  rw [derivedPaths_append] at removal ⊢
  obtain ⟨between, triedRemoval, restRemoval⟩ := removal.split
  obtain ⟨betweenAgain, triedAgain, same⟩ :=
    removal_of_alters areFixtures noLinks alters leads triedRemoval
  -- The fixtures that were not reached may depend on the others being clean.
  obtain ⟨again, restAgain, sameAgain⟩ := restRemoval.congr same.sameExcept
  exact ⟨again, triedAgain.append restAgain, sameAgain⟩

end AfterRun

/-- The fixtures that a report says were updated. -/
def reportedUpdated (fixtures : List Path) (report : Report) : List Path :=
  (fixtures.zip report.records).filterMap fun (path, record) =>
    if record.outcome = .updated then some path else none

theorem reportedUpdated_addAll (name : Path → String) (done : List (Path × Outcome)) :
    reportedUpdated (done.map Prod.fst) (Report.addAll { mode := .update } name done) =
      updatedIn .update done := by
  simp only [reportedUpdated, Report.addAll, List.nil_append]
  induction done with
  | nil => rfl
  | cons item later ih =>
      obtain ⟨path, outcome⟩ := item
      by_cases isUpdated : outcome = .updated
      · simp [updatedIn, refilled, isUpdated, ih]
      · simp [updatedIn, refilled, isUpdated, ih]

/-- Cleaning a batch removes the derived files of its fixtures, a second time nothing.  Running
the batch before makes no difference, also where the run stops at a failure; after a complete
update the fixtures that were updated have their new contents. -/
theorem clean_undoes_run {host : Host} {root : Path} {settings : Settings} {fixtures : List Path}
    {before cleaner cleaned : Workspace} {report : Report}
    (areFixtures : ∀ path ∈ fixtures, path.isFixture = true)
    (noLinks : ∀ path ∈ derivedPaths fixtures, before.disk.isLink path = false)
    (writesFiles : ∀ path ∈ fixtures, WritesFiles host settings (Artifacts.ofFixture path))
    (cleans : (runBatch host root fixtures settings .cleanOnly).run
      { cleaner with disk := before.disk } = (.ok report, cleaned)) :
    (before.disk.SameExcept (derivedPaths fixtures) cleaned.disk ∧
      ∀ path ∈ derivedPaths fixtures, ∀ place, before.disk.placeOf? path = some place →
        cleaned.disk.entryAt? place = none) ∧
    (∃ again, (runBatch host root fixtures settings .cleanOnly).run
      { cleaner with disk := cleaned.disk } = (.ok report, again) ∧ again.disk = cleaned.disk) ∧
    (∀ mode result after, mode = .clean ∨ mode = .dump →
      (runBatch host root fixtures settings mode).run before = (result, after) →
      ∃ again, (runBatch host root fixtures settings .cleanOnly).run
        { cleaner with disk := after.disk } = (.ok report, again) ∧
          cleaned.disk.SameExcept [] again.disk) ∧
    ∀ complete after,
      (runBatch host root fixtures settings .update).run before = (.ok complete, after) →
      ∃ again, (runBatch host root fixtures settings .cleanOnly).run
        { cleaner with disk := after.disk } = (.ok report, again) ∧
          cleaned.disk.SameButContents (reportedUpdated fixtures complete) again.disk := by
  have removal := removal_of_clean cleans
  refine ⟨removal.entry noLinks, clean_of_removal cleans (removal.idle noLinks), ?_, ?_⟩
  · intro mode result after isMode ran
    have isRun : mode ≠ .cleanOnly := by rcases isMode with rfl | rfl <;> decide
    have isNoUpdate : mode ≠ .update := by rcases isMode with rfl | rfl <;> decide
    obtain ⟨done, unreached, reached, rfl, passage, ending⟩ := runBatch_passes isRun ran
    obtain ⟨tried, rest, isCut, alters, leads⟩ :=
      ending.alters isNoUpdate noLinks writesFiles passage
    rw [isCut] at areFixtures noLinks removal
    obtain ⟨smaller, removalAgain, same⟩ := removal_of_stop
      (fun path member => areFixtures path (List.mem_append_left _ member))
      (fun path member => noLinks path (by simp [derivedPaths_append, member]))
      alters leads removal
    rw [← isCut] at removalAgain
    obtain ⟨again, cleansAgain, rfl⟩ := clean_of_removal cleans removalAgain
    exact ⟨again, cleansAgain, same⟩
  · intro complete after ran
    obtain ⟨done, unreached, reached, isCut, passage, ending⟩ := runBatch_passes (by decide) ran
    generalize after.disk = left at ending ⊢
    cases ending with
    | finished isEnd =>
        rw [isEnd, List.append_nil] at isCut
        subst isCut
        obtain ⟨alters, leads⟩ := passage.alters noLinks writesFiles
        obtain ⟨smaller, removalAgain, same⟩ :=
          removal_of_alters areFixtures noLinks alters leads removal
        obtain ⟨again, cleansAgain, rfl⟩ := clean_of_removal cleans removalAgain
        rw [reportedUpdated_addAll]
        exact ⟨again, cleansAgain, same⟩

/-- A compiler that writes beside its source, and a comparison of bytes.  Both can always be
started. -/
def siblingHost (translate : Bytes → Bytes) : Host :=
  fun command disk =>
    let ends (status : Nat) : Except ProcessError Performance :=
      .ok { ending := some (.exited status) }
    if command.program = "cc" then
      let source : Path := ⟨command.arguments.getLastD ""⟩
      match disk.read source with
      | .error _ => (ends 1, disk)
      | .ok content =>
          match disk.write (source.withExtension "ll") (translate content) with
          | .error _ => (ends 1, disk)
          | .ok after => (ends 0, after)
    else
      match command.arguments.reverse with
      | generated :: expected :: _ =>
          (ends (if disk.read ⟨expected⟩ = disk.read ⟨generated⟩ then 0 else 1), disk)
      | _ => (ends 2, disk)

theorem siblingHost_compile (translate : Bytes → Bytes) (artifacts : Artifacts) (disk : Disk) :
    siblingHost translate (compilation sampleSettings artifacts).command disk =
      match disk.read artifacts.source with
      | .error _ => (.ok { ending := some (.exited 1) }, disk)
      | .ok content =>
          match disk.write (artifacts.source.withExtension "ll") (translate content) with
          | .error _ => (.ok { ending := some (.exited 1) }, disk)
          | .ok after => (.ok { ending := some (.exited 0) }, after) := by
  have isCompiler : (compilation sampleSettings artifacts).command.program = "cc" := rfl
  have isSource : Path.mk ((compilation sampleSettings artifacts).command.arguments.getLastD "") =
      artifacts.source := rfl
  simp only [siblingHost, isCompiler, if_true, isSource]

theorem siblingHost_compare (translate : Bytes → Bytes) (artifacts : Artifacts) (disk : Disk) :
    siblingHost translate (comparison sampleSettings artifacts).command disk =
      (.ok { ending := some (.exited
        (if disk.read artifacts.expected = disk.read artifacts.generated then 0 else 1)) },
        disk) := rfl

theorem siblingHost_writesFiles (translate : Bytes → Bytes) {artifacts : Artifacts}
    (isBeside : artifacts.source.withExtension "ll" = artifacts.generated) :
    WritesFiles (siblingHost translate) sampleSettings artifacts := by
  have unchanged (disk : Disk) : disk.SameExcept [artifacts.generated] disk ∧ disk.SameFrame disk :=
    ⟨⟨rfl, fun _ _ => rfl⟩, .refl disk⟩
  constructor
  · intro disk isNoLink
    rw [siblingHost_compile, isBeside]
    cases isRead : disk.read artifacts.source with
    | error cause => exact unchanged disk
    | ok content =>
        cases isWritten : disk.write artifacts.generated (translate content) with
        | error cause => simpa only [isWritten] using unchanged disk
        | ok after =>
            simp only [isWritten]
            exact Disk.revises_of_write isNoLink isWritten
  · exact Host.WritesNothing.writesFile (fun disk => by rw [siblingHost_compare]) _

/-- Two fixtures, one of them missing, among files that earlier runs have left. -/
def interruptedDisk : Disk :=
  (((Disk.empty ["work"]).put ["work", "a.tst"]
        (.file (Text.toBytes "x\n========\ny\n") false)).put ["work", "a.err"]
      (.file (Text.toBytes "old errors") false)).put ["work", "b.syp"]
    (.file (Text.toBytes "old source") false)

def interruptedFixtures : List Path := [⟨"a.tst"⟩, ⟨"b.tst"⟩]

theorem interruptedFixtures_writesFiles (translate : Bytes → Bytes) :
    ∀ path ∈ interruptedFixtures,
      WritesFiles (siblingHost translate) sampleSettings (Artifacts.ofFixture path) := by
  intro path member
  have isBeside : ∀ path ∈ interruptedFixtures,
      (Artifacts.ofFixture path).source.withExtension "ll" =
        (Artifacts.ofFixture path).generated := by
    decide +kernel
  exact siblingHost_writesFiles translate (isBeside path member)

/-- The run has left the sections of the first fixture when it fails at the second. -/
theorem clean_undoes_run_interrupted :
    ∃ failure after report cleaned again,
      (runBatch (siblingHost id) ⟨"."⟩ interruptedFixtures sampleSettings .dump).run
        { disk := interruptedDisk } = (.error failure, after) ∧
      after.disk.read ⟨"a.syp"⟩ = .ok (Text.toBytes "x\n") ∧
      (runBatch (siblingHost id) ⟨"."⟩ interruptedFixtures sampleSettings .cleanOnly).run
        { disk := interruptedDisk } = (.ok report, cleaned) ∧
      cleaned.disk.find ⟨"b.syp"⟩ = .error .missing ∧
      (runBatch (siblingHost id) ⟨"."⟩ interruptedFixtures sampleSettings .cleanOnly).run
        { disk := after.disk } = (.ok report, again) ∧
      cleaned.disk.SameExcept [] again.disk := by
  have areFixtures : ∀ path ∈ interruptedFixtures, path.isFixture = true := by decide +kernel
  have noLinks : ∀ path ∈ derivedPaths interruptedFixtures,
      { disk := interruptedDisk : Workspace }.disk.isLink path = false := by
    decide +kernel
  have failed := Action.run_eq_of_result { disk := interruptedDisk } (show
    ((runBatch (siblingHost id) ⟨"."⟩ interruptedFixtures sampleSettings .dump).run
      { disk := interruptedDisk }).1 = .error (.access ⟨"b.tst"⟩ .missing) by decide +kernel)
  have cleans := Action.run_eq_of_result { disk := interruptedDisk } (show
    ((runBatch (siblingHost id) ⟨"."⟩ interruptedFixtures sampleSettings .cleanOnly).run
      { disk := interruptedDisk }).1 = .ok { mode := .cleanOnly, cleaned := 2 } by decide +kernel)
  obtain ⟨_, _, undoes, _⟩ := @clean_undoes_run _ _ _ _ { disk := interruptedDisk }
    { disk := interruptedDisk } _ _ areFixtures noLinks (interruptedFixtures_writesFiles id) cleans
  obtain ⟨again, cleansAgain, same⟩ := undoes .dump _ _ (Or.inr rfl) failed
  exact ⟨_, _, _, _, again, failed, by decide +kernel, cleans, by decide +kernel, cleansAgain, same⟩

end Batch
end FixtureRunner
