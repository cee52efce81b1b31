/-
What a run leaves when it fails.

A run can fail at every request and at both programs.  Whatever it has written by then lies
among the files of the fixture.  The fixture itself is rewritten by an update only, once the
comparison has failed; after that, the run can still fail to remove a derived file.
-/

import FixtureRunner.Proofs.Batch.Repetition

namespace FixtureRunner

open FixtureRunner.Action
open Artifacts (ofFixture)

namespace Batch

/-! ### Fixtures without a home -/

variable {path : Path} {workspace : Workspace}

theorem runFixture_unsplit (host : Host) (settings : Settings) (mode : RunMode) {failure : Failure}
    (stops : (ofFixture path).split.run workspace = (.error failure, workspace)) :
    (runFixture host settings mode path).run workspace = (.error failure, workspace) :=
  run_bind_error workspace _ (run_bind_error workspace _ stops)

theorem runFixture_unreadable (host : Host) (settings : Settings) (mode : RunMode)
    {cause : SystemError} (isUnread : workspace.disk.read path = .error cause) :
    (runFixture host settings mode path).run workspace =
      (.error (.access path cause), workspace) :=
  runFixture_unsplit host settings mode (Artifacts.split_unreadable isUnread)

theorem houses_or_idle (host : Host) (settings : Settings) (mode : RunMode)
    (isFixture : path.isFixture = true)
    (noLinks : (ofFixture path).NoLinks workspace.disk) :
    (∃ home, workspace.disk.Houses (ofFixture path) home) ∨
      ((runFixture host settings mode path).run workspace).2.disk = workspace.disk := by
  cases isRead : workspace.disk.read path with
  | error cause =>
      right
      rw [runFixture_unreadable host settings mode isRead]
  | ok content =>
      obtain ⟨folder, name, leads⟩ := Disk.leads_of_read isRead
      rcases Disk.houses_or_folders isFixture leads noLinks with houses | folders
      · exact Or.inl houses
      · right
        by_cases isPair : (Fixture.sections (Text.decode content)).length = 2
        · obtain ⟨source, expected, isPair⟩ := List.length_eq_two.mp isPair
          obtain ⟨location, routed⟩ := folders .source (by decide)
          have isUnwritten := Disk.write_of_folder (Text.encode source) (routed .write)
          rw [runFixture_unsplit host settings mode
            (Artifacts.split_unwritable isRead isPair isUnwritten)]
        · obtain ⟨log, ran, _⟩ := runFixture_ends_malformed host settings mode isRead isPair _ rfl
          rw [ran]

/-! ### Failures -/

/-- The compiler, run on the sections of the fixture, succeeds and leaves some bytes. -/
def Produces (host : Host) (settings : Settings) (artifacts : Artifacts) (before : Disk)
    (raw : Bytes) : Prop :=
  ∃ ready output compiled, Prepares artifacts before ready ∧
    (compilation settings artifacts).Ran host ready output compiled ∧
    output.success = true ∧ compiled.read artifacts.generated = .ok raw

/-- An update has written the fixture anew: the source it was split into above the text that
was at the generated path when the comparison had run and failed.  Unless the comparison has
touched that file, the text is what the compiler produced, normalized. -/
structure IsRewritten (host : Host) (settings : Settings) (path : Path)
    (source generated : Text) (before after : Disk) : Prop where
  sections : ∃ content expected, before.read path = .ok content ∧
    Fixture.sections (Text.decode content) = [source, expected]
  rewrites : Call.Rewrites ⟨host, settings, .update⟩ path before generated
  normalized : host.WritesNothing (comparison settings (ofFixture path)).command →
    ∃ raw, Produces host settings (ofFixture path) before raw ∧
      generated = settings.normalizer.normalize (Text.decode raw)
  fixture : after.read path = .ok (Text.encode (Fixture.assemble source generated))

theorem Call.Rewrites.normalized {call : Call} {before : Disk} {generated : Text} {home : Home}
    (confined : Confined call.host call.settings (ofFixture path))
    (houses : before.Houses (ofFixture path) home)
    (diffWrites : call.host.WritesNothing
      (comparison call.settings (ofFixture path)).command)
    (rewrites : call.Rewrites path before generated) :
    ∃ raw, Produces call.host call.settings (ofFixture path) before raw ∧
      generated = call.settings.normalizer.normalize (Text.decode raw) := by
  obtain ⟨_, ready, output, compiled, raw, seen, compared, left, content, prepares, ran, succeeded,
    isRaw, isSeen, ranAgain, _, isContent, rfl⟩ := rewrites
  obtain ⟨_, source, expected, _, _, sourceOpen, expectedOpen, generatedOpen, rfl⟩ :=
    (prepares_iff houses ready).mp prepares
  have readyHouses := (houses.split source expected sourceOpen expectedOpen).erase generatedOpen
  obtain ⟨_, compiledHouses⟩ := ran.houses confined.compiles readyHouses (by simp)
  obtain rfl := ranAgain.left_eq diffWrites
  have isShown := Disk.read_of_write isSeen
  obtain rfl := Except.ok.inj (isContent.symm.trans isShown)
  exact ⟨raw, ⟨_, output, compiled, prepares, ran, succeeded, isRaw⟩, Text.decode_encode _⟩

/-- A run that fails, wherever it does, has changed nothing but the files of the fixture.  The
fixture is as it was, or an update has rewritten it whole. -/
theorem runFixture_failure_spares {host : Host} {settings : Settings} {mode : RunMode}
    {path : Path} {before after : Workspace} {failure : Failure}
    (isFixture : path.isFixture = true)
    (noLinks : (Artifacts.ofFixture path).NoLinks before.disk)
    (confined : Confined host settings (Artifacts.ofFixture path))
    (failed : (runFixture host settings mode path).run before = (.error failure, after)) :
    before.disk.SameExcept (path :: (Artifacts.ofFixture path).derived) after.disk ∧
      (after.disk.find path = before.disk.find path ∨
        mode = .update ∧ ∃ source generated,
          IsRewritten host settings path source generated before.disk after.disk) := by
  rcases houses_or_idle host settings mode isFixture noLinks with ⟨home, houses⟩ | idle
  · obtain ⟨result, final, started, course, ends⟩ := runFixture_ends mode confined houses
    obtain ⟨rfl, rfl, _⟩ := ends.eq_of_run failed
    obtain ⟨finalHouses, _, fixture⟩ := course.leaves_fixture confined houses
    refine ⟨houses.sameExcept (course.touches confined houses), ?_⟩
    rcases fixture with
      ⟨isUpdate, source, generated, left, rewriting, _, isAssembled⟩ | ⟨_, unchanged⟩
    · have rewrites : Call.Rewrites ⟨host, settings, .update⟩ path before.disk generated :=
        (rewrites_iff houses confined generated).mpr ⟨rfl, source, left, rewriting⟩
      obtain ⟨text, expected, isText, isPair⟩ := rewriting.sections_eq
      obtain ⟨content, isRead, rfl⟩ := (houses.text?_iff .fixture text).mp isText
      exact Or.inr ⟨isUpdate, source, generated, ⟨content, expected, isRead, isPair⟩, rewrites,
        fun diffWrites => rewrites.normalized confined houses diffWrites,
        finalHouses.read_of_entry .fixture isAssembled⟩
    · exact Or.inl (houses.find_congr finalHouses .fixture unchanged)
  · rw [failed] at idle
    rw [idle]
    exact ⟨⟨rfl, fun _ _ => rfl⟩, Or.inl rfl⟩

/-- A fixture with a folder where its error log belongs. -/
def blockedDisk : Disk :=
  ((Disk.empty ["work"]).put ["work", "a.tst"]
      (.file (Text.toBytes "x\n========\ny\n\n") false)).put ["work", "a.err"] .folder

theorem blockedDisk_noLinks : (ofFixture ⟨"a.tst"⟩).NoLinks blockedDisk := by
  intro role
  cases role <;> decide

theorem runFixture_failure_spares_blockedDisk :
    ∃ failure after source generated,
      (runFixture (differingHost "z \n\n") sampleSettings .update ⟨"a.tst"⟩).run
        { disk := blockedDisk } = (.error failure, after) ∧
      blockedDisk.SameExcept (⟨"a.tst"⟩ :: (Artifacts.ofFixture ⟨"a.tst"⟩).derived) after.disk ∧
      IsRewritten (differingHost "z \n\n") sampleSettings ⟨"a.tst"⟩ source generated blockedDisk
        after.disk := by
  have noLinks : (Artifacts.ofFixture ⟨"a.tst"⟩).NoLinks
      { disk := blockedDisk : Workspace }.disk := blockedDisk_noLinks
  have confined : Confined (differingHost "z \n\n") sampleSettings
      (Artifacts.ofFixture ⟨"a.tst"⟩) := updateWriting_confined "z \n\n"
  have isFailure : ((runFixture (differingHost "z \n\n") sampleSettings .update ⟨"a.tst"⟩).run
      { disk := blockedDisk }).1 = .error (.access ⟨"a.err"⟩ .isFolder) := by
    decide +kernel
  have isChanged : ((runFixture (differingHost "z \n\n") sampleSettings .update ⟨"a.tst"⟩).run
      { disk := blockedDisk }).2.disk.find ⟨"a.tst"⟩ ≠ blockedDisk.find ⟨"a.tst"⟩ := by
    decide +kernel
  have failed := Action.run_eq_of_result _ isFailure
  obtain ⟨elsewhere, unchanged | ⟨_, source, generated, rewritten⟩⟩ :=
    runFixture_failure_spares sampleIsFixture noLinks confined failed
  · exact absurd unchanged isChanged
  · exact ⟨_, _, source, generated, failed, elsewhere, rewritten⟩

/-- Both programs write the generated file, and the comparison fails. -/
def overwritingHost : Host :=
  fun command disk =>
    let isCompiler := command.program = "cc"
    match disk.write ⟨"a.ll"⟩ (Text.toBytes (if isCompiler then "z\n" else "other \n\n")) with
    | .ok after => (.ok { ending := some (.exited (if isCompiler then 0 else 1)) }, after)
    | .error cause => (.error (.start cause), disk)

theorem overwritingHost_writesOnly (command : Command) :
    overwritingHost.WritesOnly command ⟨"a.ll"⟩ := by
  intro disk isNoLink
  unfold overwritingHost
  cases isWritten : disk.write ⟨"a.ll"⟩
      (Text.toBytes (if command.program = "cc" then "z\n" else "other \n\n")) with
  | ok after =>
      simp only [isWritten]
      exact Disk.sameExcept_of_write isNoLink isWritten
  | error cause =>
      simp only [isWritten]
      exact ⟨⟨rfl, fun _ _ => rfl⟩, isNoLink⟩

/-- The compiler leaves a link where its text belongs. -/
def linkingHost (target : String) (compared : Except ProcessError Performance) : Host :=
  fun command disk =>
    if command.program = "cc" then
      (.ok { ending := some (.exited 0) }, disk.put (disk.here ++ ["a.ll"]) (.link target))
    else
      (compared, disk)

theorem placeOf?_sampleGenerated (disk : Disk) :
    disk.placeOf? ⟨"a.ll"⟩ = some (disk.here ++ ["a.ll"]) := by
  have leads : disk.Leads ⟨"a.ll"⟩ disk.here "a.ll" :=
    Disk.leads_name (by unfold Disk.IsName; decide) (by decide)
      (by decide) (by decide) (by decide)
  exact leads.placeOf?

theorem linkingHost_sameExcept (target : String) (compared : Except ProcessError Performance)
    (command : Command) (disk : Disk) :
    disk.SameExcept [⟨"a.ll"⟩] (linkingHost target compared command disk).2 := by
  unfold linkingHost
  by_cases isCompiler : command.program = "cc"
  · rw [if_pos isCompiler]
    refine ⟨rfl, fun location isElsewhere => ?_⟩
    have isOther : location ≠ disk.here ++ ["a.ll"] := by
      rintro rfl
      exact isElsewhere ⟨"a.ll"⟩ (by simp) (placeOf?_sampleGenerated disk)
    rw [Disk.entryAt?_put _ _ _ _ (by simp), if_neg isOther]
  · rw [if_neg isCompiler]
    exact ⟨rfl, fun _ _ => rfl⟩

theorem overwritingHost_produces :
    Produces overwritingHost sampleSettings (ofFixture ⟨"a.tst"⟩) blockedDisk
      (Text.toBytes "z\n") := by
  have houses := sampleHouses blockedDisk_noLinks
  have isText : Home.text? ⟨blockedDisk.here, "a"⟩ blockedDisk .fixture =
      some "x\n========\ny\n\n".toList := by
    decide
  have isPair : Fixture.sections "x\n========\ny\n\n".toList =
      ["x\n".toList, "\ny\n\n".toList] := by
    decide
  have isOpen : ∀ role ∈ [Role.source, .expected, .generated],
      blockedDisk.entryAt? (Home.place ⟨blockedDisk.here, "a"⟩ role) ≠ some .folder := by
    decide
  have generatedOpen : (Home.split ⟨blockedDisk.here, "a"⟩ blockedDisk "x\n".toList
      "\ny\n\n".toList).entryAt? (Home.place ⟨blockedDisk.here, "a"⟩ .generated) ≠
        some .folder := by
    rw [(Home.touches_split _ _ _ _).entry (by decide)]
    exact isOpen .generated (by simp)
  have readyHouses := (houses.split "x\n".toList "\ny\n\n".toList
    (isOpen .source (by simp)) (isOpen .expected (by simp))).erase generatedOpen
  have isWritten := readyHouses.write_of_open .generated (Text.toBytes "z\n") (by simp)
  have prepares := (prepares_iff houses _).mpr ⟨_, _, _, isText, isPair, isOpen .source (by simp),
    isOpen .expected (by simp), generatedOpen, rfl⟩
  have isRead := Disk.read_of_write isWritten
  refine ⟨_, _, _, prepares, ⟨by decide, { ending := some (.exited 0) }, ?_, rfl⟩,
    by decide, isRead⟩
  rw [sampleArtifacts_eq, Artifacts.path] at isWritten
  unfold overwritingHost
  simp only [compilation, Settings.compileInvocation, Invocation.command, sampleSettings, if_true]
  rw [isWritten]

/-- A comparison that rewrites the generated file has its text in the fixture, not what the
compiler produced.  A compiler that leaves a link to the fixture has the fixture normalized. -/
theorem fixture_damaged_by_programs :
    (∃ failure after raw,
      (Artifacts.ofFixture ⟨"a.tst"⟩).NoLinks blockedDisk ∧
      Confined overwritingHost sampleSettings (Artifacts.ofFixture ⟨"a.tst"⟩) ∧
      (runFixture overwritingHost sampleSettings .update ⟨"a.tst"⟩).run { disk := blockedDisk } =
        (.error failure, after) ∧
      Produces overwritingHost sampleSettings (Artifacts.ofFixture ⟨"a.tst"⟩) blockedDisk raw ∧
      after.disk.read ⟨"a.tst"⟩ ≠ blockedDisk.read ⟨"a.tst"⟩ ∧
      after.disk.read ⟨"a.tst"⟩ ≠ .ok (Text.encode (Fixture.assemble "x\n".toList
        (sampleSettings.normalizer.normalize (Text.decode raw))))) ∧
    ∃ failure after,
      (∀ command (disk : Disk), disk.SameExcept [⟨"a.ll"⟩]
        (linkingHost "a.tst" (.error (.start .missing)) command disk).2) ∧
      (runFixture (linkingHost "a.tst" (.error (.start .missing))) sampleSettings .clean
        ⟨"a.tst"⟩).run
        { disk := blockedDisk } = (.error failure, after) ∧
      after.disk.read ⟨"a.tst"⟩ ≠ blockedDisk.read ⟨"a.tst"⟩ := by
  have confined : Confined overwritingHost sampleSettings (Artifacts.ofFixture ⟨"a.tst"⟩) := by
    rw [sampleArtifacts_eq]
    exact ⟨overwritingHost_writesOnly _, overwritingHost_writesOnly _⟩
  constructor
  · have failed := Action.run_eq_of_result { disk := blockedDisk } (show
      ((runFixture overwritingHost sampleSettings .update ⟨"a.tst"⟩).run
        { disk := blockedDisk }).1 = .error (.access ⟨"a.err"⟩ .isFolder) by decide +kernel)
    exact ⟨_, _, _, blockedDisk_noLinks, confined, failed, overwritingHost_produces,
      by decide +kernel, by decide +kernel⟩
  · have failed := Action.run_eq_of_result { disk := blockedDisk } (show
      ((runFixture (linkingHost "a.tst" (.error (.start .missing))) sampleSettings .clean
        ⟨"a.tst"⟩).run
        { disk := blockedDisk }).1 = .error (.launch "diff" (.start .missing)) by decide +kernel)
    exact ⟨_, _, linkingHost_sameExcept _ _, failed, by decide +kernel⟩

end Batch
end FixtureRunner
