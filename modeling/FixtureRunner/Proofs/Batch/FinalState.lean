/-
The outcome of running a fixture, and everything the run leaves.

A run that returns an outcome has gone through the documented states: it has split the
fixture, compiled its source, compared the normalized result and classified it.  Each
outcome comes with the files it leaves.
-/

import FixtureRunner.Proofs.Batch.Course

namespace FixtureRunner

open Artifacts (ofFixture)
open Text (encode decode)

/-- The command changes nothing, whatever disk it is given. -/
def Host.WritesNothing (host : Host) (command : Command) : Prop :=
  ∀ disk : Disk, (host command disk).2 = disk

theorem Invocation.Ran.left_eq {host : Host} {invocation : Invocation} {disk left : Disk}
    {output : ProcessOutput} (writesNothing : host.WritesNothing invocation.command)
    (ran : invocation.Ran host disk output left) : left = disk := by
  obtain ⟨performance, isPerformed, _⟩ := ran.performed
  have same := writesNothing disk
  rw [isPerformed] at same
  exact same

theorem Host.WritesNothing.writesOnly {host : Host} {command : Command}
    (writesNothing : host.WritesNothing command) (path : Path) : host.WritesOnly command path := by
  intro disk isNoLink
  rw [writesNothing disk]
  exact ⟨⟨rfl, fun _ _ => rfl⟩, isNoLink⟩

namespace Batch

/-! ### The states of a run -/

/-- Both sections are in their files, and what an earlier compilation has left is gone. -/
structure IsReady (artifacts : Artifacts) (source expected : Text) (before ready : Disk) :
    Prop where
  source : ready.read artifacts.source = .ok (encode source)
  expected : ready.read artifacts.expected = .ok (encode expected)
  generated : ready.find artifacts.generated = .error .missing
  elsewhere : before.SameExcept
    [artifacts.source, artifacts.expected, artifacts.generated] ready

/-- What the error log of a failed compilation says: the errors, then that nothing was
produced if the compiler succeeded, then the output and notes on what was cut short. -/
def compileLog (artifacts : Artifacts) (output : ProcessOutput) : Text :=
  output.stderr ++
    (if output.success then
      ("compiler did not produce " ++ artifacts.generated.text ++ "\n").toList else []) ++
    output.stdout ++
    (if output.timedOut then Artifacts.timeoutNote else []) ++
    (if output.stderrTruncated || output.stdoutTruncated then Artifacts.truncationNote else [])

/-- What a failed compilation leaves. -/
structure LeavesCompileError (artifacts : Artifacts) (source expected : Text)
    (output : ProcessOutput) (compiled after : Disk) : Prop where
  source : after.read artifacts.source = .ok (encode source)
  expected : after.read artifacts.expected = .ok (encode expected)
  errorLog : after.read artifacts.errorLog = .ok (encode (compileLog artifacts output))
  elsewhere : compiled.SameExcept [artifacts.errorLog] after

/-- What a comparison leaves.  The fixture changes if it is updated only.  The other files
are removed if the mode wants it and the fixture passed; else they hold the sections and
the normalized text, and the error log is written if the fixture differs only. -/
structure LeavesComparison (artifacts : Artifacts) (mode : RunMode) (outcome : Outcome)
    (content : Bytes) (source expected generated : Text) (compared : ProcessOutput)
    (before after : Disk) : Prop where
  fixture : after.read artifacts.fixture =
    .ok (if outcome = .updated then encode (Fixture.assemble source generated) else content)
  purged : (mode.purges && !outcome.isFailure) = true →
    ∀ path ∈ artifacts.derived, after.find path = .error .missing
  kept : (mode.purges && !outcome.isFailure) = false →
    after.read artifacts.source = .ok (encode source) ∧
      after.read artifacts.expected = .ok (encode expected) ∧
      after.read artifacts.generated = .ok (encode generated)
  logged : outcome = .diffMismatch →
    after.read artifacts.errorLog = .ok (encode (Artifacts.errorText compared))
  unlogged : (mode.purges && !outcome.isFailure) = false → outcome ≠ .diffMismatch →
    after.find artifacts.errorLog = before.find artifacts.errorLog
  elsewhere : before.SameExcept (artifacts.fixture :: artifacts.derived) after

/-- How a fixture with two sections comes to its outcome: the compiler runs once on the
sections, and it is a compile error exactly if it fails or leaves no file; otherwise the
comparison runs once on the normalized text, and decides. -/
def PassesThrough (host : Host) (settings : Settings) (mode : RunMode) (artifacts : Artifacts)
    (content : Bytes) (source expected : Text) (outcome : Outcome) (before after : Disk)
    (started : List Invocation) : Prop :=
  ∃ ready output compiled,
    IsReady artifacts source expected before ready ∧
    (compilation settings artifacts).Ran host ready output compiled ∧
    (outcome = .compileError ↔
      output.success = false ∨ compiled.isFile artifacts.generated = false) ∧
    (outcome = .compileError →
      started = [compilation settings artifacts] ∧
      LeavesCompileError artifacts source expected output compiled after) ∧
    (outcome ≠ .compileError →
      ∃ raw seen compared,
        compiled.read artifacts.generated = .ok raw ∧
        compiled.write artifacts.generated
          (encode (settings.normalizer.normalize (decode raw))) = .ok seen ∧
        (comparison settings artifacts).Ran host seen compared seen ∧
        started = [compilation settings artifacts, comparison settings artifacts] ∧
        outcome = (if compared.success then .ok
          else if mode = .update then .updated else .diffMismatch) ∧
        LeavesComparison artifacts mode outcome content source expected
          (settings.normalizer.normalize (decode raw)) compared before after)

/-! ### Before the comparison -/

section States

variable {artifacts : Artifacts} {home : Home} {before : Disk} {source expected : Text}

theorem isReady_of_split (houses : before.Houses artifacts home)
    (sourceOpen : home.IsOpen before .source) (expectedOpen : home.IsOpen before .expected)
    (generatedOpen : home.IsOpen (home.split before source expected) .generated) :
    IsReady artifacts source expected before
      ((home.split before source expected).erase (home.place .generated)) := by
  have readyHouses := (houses.split source expected sourceOpen expectedOpen).erase generatedOpen
  have touches : home.Touches [.source, .expected, .generated] before
      ((home.split before source expected).erase (home.place .generated)) :=
    ((home.touches_split before source expected).mono (by simp)).trans
      ((Home.Touches.erase home _ .generated).mono (by simp))
  constructor
  · apply (readyHouses.read_eq_ok_iff .source _).mpr
    simp [Home.split]
  · apply (readyHouses.read_eq_ok_iff .expected _).mpr
    simp [Home.split]
  · apply (readyHouses.find_eq_missing_iff .generated).mpr
    simp
  · exact houses.sameExcept touches

theorem section_entry {disk : Disk}
    (touches : home.Touches [.generated] (home.split before source expected) disk) :
    (∃ executable, disk.entryAt? (home.place .source) =
        some (.file (encode source) executable)) ∧
      ∃ executable, disk.entryAt? (home.place .expected) =
        some (.file (encode expected) executable) := by
  rw [touches.entry (by decide), touches.entry (by decide)]
  simp [Home.split]

theorem leavesCompileError_of_logging {logged : ProcessOutput} {compiled final : Disk}
    {outcome : Outcome} (output : ProcessOutput) (houses : compiled.Houses artifacts home)
    (touches : home.Touches [.generated] (home.split before source expected) compiled)
    (isText : Artifacts.errorText logged = compileLog artifacts output)
    (logging : Logging home logged .compileError compiled (.ok outcome) final) :
    outcome = .compileError ∧
      LeavesCompileError artifacts source expected output compiled final := by
  cases logging with
  | logged isOpen =>
      have finalHouses := houses.store (encode (Artifacts.errorText logged)) isOpen
      obtain ⟨⟨_, isSource⟩, ⟨_, isExpected⟩⟩ := section_entry touches
      refine ⟨rfl, ?_, ?_, ?_, ?_⟩
      · exact finalHouses.read_of_entry .source (by simpa using isSource)
      · exact finalHouses.read_of_entry .expected (by simpa using isExpected)
      · rw [← isText]
        apply (finalHouses.read_eq_ok_iff .errorLog _).mpr
        simp
      · exact houses.sameExcept (.store home compiled .errorLog _)

/-! ### After the comparison -/

variable {mode : RunMode} {outcome : Outcome} {content : Bytes} {generated : Text}
  {compared : ProcessOutput} {seen left final : Disk}

theorem Verdict.outcome_eq
    (verdict : Verdict mode home source compared left (.ok outcome) final) :
    outcome = (if compared.success then .ok
      else if mode = .update then .updated else .diffMismatch) := by
  cases verdict with
  | matched succeeded => simp [succeeded]
  | rebuilt differed isUpdate isGenerated => simp [differed, isUpdate]
  | mismatched differed isNoUpdate logging =>
      cases logging
      simp [differed, isNoUpdate]

/-- The sections and the normalized text are in their files; all else is as before. -/
structure IsShown (home : Home) (source expected generated : Text) (before seen : Disk) :
    Prop where
  source : ∃ executable, seen.entryAt? (home.place .source) =
    some (.file (encode source) executable)
  expected : ∃ executable, seen.entryAt? (home.place .expected) =
    some (.file (encode expected) executable)
  generated : ∃ executable, seen.entryAt? (home.place .generated) =
    some (.file (encode generated) executable)
  touches : home.Touches [.source, .expected, .generated] before seen

theorem isShown_of_compiled (settings : Settings) {compiled : Disk} (raw : Text)
    (touches : home.Touches [.generated] (home.split before source expected) compiled) :
    IsShown home source expected (settings.normalizer.normalize raw) before
      (shown settings home compiled raw) := by
  have shows : home.Touches [.generated] (home.split before source expected)
      (shown settings home compiled raw) :=
    touches.trans (.store home compiled .generated _)
  obtain ⟨isSource, isExpected⟩ := section_entry shows
  refine ⟨isSource, isExpected, ?_, ?_⟩
  · simp [shown]
  · exact ((home.touches_split before source expected).mono (by simp)).trans
      (shows.mono (by simp))

theorem Verdict.leaves_log (houses : seen.Houses artifacts home)
    (isOther : outcome ≠ .updated)
    (verdict : Verdict mode home source compared seen (.ok outcome) final) :
    final.Houses artifacts home ∧ home.Touches [.errorLog] seen final ∧
      (outcome = .diffMismatch →
        final.read artifacts.errorLog = .ok (encode (Artifacts.errorText compared))) ∧
      (outcome ≠ .diffMismatch → final = seen) := by
  cases verdict with
  | matched succeeded => exact ⟨houses, .refl home _ seen, nofun, fun _ => rfl⟩
  | rebuilt differed isUpdate isGenerated => exact absurd rfl isOther
  | mismatched differed isNoUpdate logging =>
      cases logging with
      | logged isOpen =>
          have finalHouses := houses.store (encode (Artifacts.errorText compared)) isOpen
          refine ⟨finalHouses, .store home seen .errorLog _, fun _ => ?_,
            fun isOther => absurd rfl isOther⟩
          apply (finalHouses.read_eq_ok_iff .errorLog _).mpr
          simp

variable (houses : before.Houses artifacts home) (seenHouses : seen.Houses artifacts home)
  (isShown : IsShown home source expected generated before seen)
  (isContent : before.read artifacts.fixture = .ok content)

include houses seenHouses isShown isContent

theorem leavesComparison_of_kept
    (verdict : Verdict mode home source compared seen (.ok outcome) final)
    (keeps : (mode.purges && !outcome.isFailure) = false) :
    LeavesComparison artifacts mode outcome content source expected generated compared before
      final := by
  have isOther : outcome ≠ .updated := by
    rintro rfl
    cases verdict with
    | rebuilt differed isUpdate isGenerated =>
        subst isUpdate
        cases keeps
    | mismatched differed isNoUpdate logging => cases logging
  obtain ⟨finalHouses, touches, logged, unlogged⟩ := verdict.leaves_log seenHouses isOther
  obtain ⟨⟨_, isSource⟩, ⟨_, isExpected⟩, ⟨_, isGenerated⟩, shows⟩ := isShown
  rw [← touches.entry (by decide)] at isSource isExpected isGenerated
  have sameFixture : final.entryAt? (home.place .fixture) =
      before.entryAt? (home.place .fixture) := by
    rw [touches.entry (by decide), shows.entry (by decide)]
  constructor
  · rw [if_neg isOther]
    exact (houses.read_congr finalHouses .fixture sameFixture).trans isContent
  · intro purges
    rw [keeps] at purges
    cases purges
  · intro _
    exact ⟨finalHouses.read_of_entry .source isSource,
      finalHouses.read_of_entry .expected isExpected,
      finalHouses.read_of_entry .generated isGenerated⟩
  · exact logged
  · intro _ isNoMismatch
    obtain rfl := unlogged isNoMismatch
    exact houses.find_congr finalHouses .errorLog (shows.entry (by decide))
  · have reaches : home.Touches (.fixture :: Role.derived) before final :=
      (shows.mono (by decide)).trans (touches.mono (by decide))
    exact houses.sameExcept reaches

theorem Verdict.leaves_fixture (verdict : Verdict mode home source compared seen (.ok outcome) left)
    (isNoMismatch : outcome ≠ .diffMismatch) :
    left.Houses artifacts home ∧ home.Touches [.fixture] seen left ∧
      left.read artifacts.fixture = .ok (if outcome = .updated then
        encode (Fixture.assemble source generated) else content) := by
  have sameFixture : seen.entryAt? (home.place .fixture) =
      before.entryAt? (home.place .fixture) := isShown.touches.entry (by decide)
  cases verdict with
  | matched succeeded =>
      exact ⟨seenHouses, .refl home _ seen,
        (houses.read_congr seenHouses .fixture sameFixture).trans isContent⟩
  | @rebuilt text differed isUpdate isText =>
      obtain rfl := Option.some.inj
        ((Home.text?_of_file isShown.generated).symm.trans isText)
      have isOpen : home.IsOpen seen .fixture := isShown.touches.isOpen (by decide)
        (Home.open_of_text? ((houses.text?_iff .fixture _).mpr ⟨content, isContent, rfl⟩))
      have leftHouses := seenHouses.store
        (encode (Fixture.assemble source generated)) isOpen
      refine ⟨leftHouses, .store home seen .fixture _, ?_⟩
      apply (leftHouses.read_eq_ok_iff .fixture _).mpr
      simp
  | mismatched differed isNoUpdate logging =>
      cases logging
      exact absurd rfl isNoMismatch

theorem leavesComparison_of_purged
    (verdict : Verdict mode home source compared seen (.ok outcome) left)
    (purges : (mode.purges && !outcome.isFailure) = true)
    (areOpen : ∀ role ∈ Role.derived, home.IsOpen left role) :
    LeavesComparison artifacts mode outcome content source expected generated compared before
      (home.clear left Role.derived) := by
  have isNoMismatch : outcome ≠ .diffMismatch := by
    rintro rfl
    simp [Outcome.isFailure] at purges
  obtain ⟨leftHouses, touches, isFixture⟩ :=
    verdict.leaves_fixture houses seenHouses isShown isContent isNoMismatch
  have finalHouses := leftHouses.clear areOpen
  have clears := home.touches_clear left Role.derived
  constructor
  · exact (leftHouses.read_congr finalHouses .fixture (clears.entry (by decide))).trans isFixture
  · intro _ path member
    rw [artifacts.derived_eq] at member
    obtain ⟨role, isDerived, rfl⟩ := List.mem_map.mp member
    apply (finalHouses.find_eq_missing_iff role).mpr
    rw [Home.entryAt?_clear, if_pos isDerived]
  · intro keeps
    rw [purges] at keeps
    cases keeps
  · intro isMismatch
    exact absurd isMismatch isNoMismatch
  · intro keeps
    rw [purges] at keeps
    cases keeps
  · have reaches : home.Touches (.fixture :: Role.derived) before
        (home.clear left Role.derived) :=
      (isShown.touches.mono (by decide)).trans
        ((touches.mono (by decide)).trans (clears.mono (by decide)))
    exact houses.sameExcept reaches

end States

/-! ### Runs that return an outcome -/

variable {path : Path}

/-- A fixture with another number of sections is classified at once, whatever the programs
would do. -/
theorem runFixture_ends_malformed {disk : Disk} {content : Bytes} (host : Host)
    (settings : Settings) (mode : RunMode) (isRead : disk.read path = .ok content)
    (isNoPair : (Fixture.sections (decode content)).length ≠ 2) :
    (runFixture host settings mode path).Ends disk (.ok .malformed) disk [] := by
  have isReadFixture : disk.read (ofFixture path).fixture = .ok content := isRead
  have classified : (classify host settings mode (ofFixture path)).Ends disk
      (.ok .malformed) disk [] :=
    (Artifacts.split_ends_malformed isReadFixture isNoPair).bind_later
      (Action.ends_pure Outcome.malformed)
  refine classified.bind_later ?_
  refine (Action.ends_record (by simp [Log.Event.startedCommand?])).bind_later ?_
  have keeps : (mode.purges && !Outcome.malformed.isFailure) = false := by
    simp [Outcome.isFailure]
  rw [keeps]
  exact Action.ends_pure Outcome.malformed

theorem runFixture_malformed_eq {workspace : Workspace} {content : Bytes} (host other : Host)
    (settings : Settings) (mode : RunMode) (isRead : workspace.disk.read path = .ok content)
    (isNoPair : (Fixture.sections (decode content)).length ≠ 2) :
    (runFixture host settings mode path).run workspace =
      (runFixture other settings mode path).run workspace := by
  have isReadFixture : workspace.disk.read (ofFixture path).fixture = .ok content :=
    isRead
  obtain ⟨log, ran, _⟩ := Artifacts.split_ends_malformed isReadFixture isNoPair _ rfl
  have classifies (any : Host) :
      (classify any settings mode (ofFixture path)).run workspace =
        (.ok .malformed, { workspace with log := log }) := by
    rw [classify, Action.run_bind_ok _ _ ran]
    rfl
  rw [runFixture, Action.run_bind_ok _ _ (classifies host), runFixture,
    Action.run_bind_ok _ _ (classifies other)]

theorem houses_of_returned {host : Host} {settings : Settings} {mode : RunMode}
    {before after : Workspace} {outcome : Outcome} (isFixture : path.isFixture = true)
    (noLinks : (ofFixture path).NoLinks before.disk)
    (returned : (runFixture host settings mode path).run before = (.ok outcome, after))
    (isOther : outcome ≠ .malformed) :
    ∃ home, before.disk.Houses (ofFixture path) home := by
  obtain ⟨_, _, ranClassify, _⟩ := Action.run_bind_eq_ok _ returned
  obtain ⟨_, _, ranSplit, _⟩ := Action.run_bind_eq_ok _ ranClassify
  obtain ⟨content, isRead⟩ := Artifacts.split_reads ranSplit
  by_cases isPair : (Fixture.sections (decode content)).length = 2
  · obtain ⟨source, expected, isPair⟩ := List.length_eq_two.mp isPair
    exact Artifacts.houses_of_pair isFixture noLinks isRead isPair ranSplit
  · have isMalformed :=
      ((runFixture_ends_malformed host settings mode isRead isPair).eq_of_run returned).1
    exact absurd (Except.ok.inj isMalformed) isOther

section Returned

variable {host : Host} {settings : Settings} {mode : RunMode} {artifacts : Artifacts}
  {home : Home} {before after : Disk} {content : Bytes} {source expected : Text}
  {outcome : Outcome} {started : List Invocation}

theorem Classification.compiled_of_pair {left : Disk}
    (isText : home.text? before .fixture = some (decode content))
    (isPair : Fixture.sections (decode content) = [source, expected])
    (classified : Classification host settings mode artifacts home before (.ok outcome) left
      started) :
    home.IsOpen before .source ∧
      home.IsOpen before .expected ∧
      home.IsOpen (home.split before source expected) .generated ∧
      ∃ output compiled rest, started = compilation settings artifacts :: rest ∧
        (compilation settings artifacts).Ran host
          ((home.split before source expected).erase (home.place .generated)) output compiled ∧
        Production host settings mode artifacts home source output compiled (.ok outcome) left
          rest := by
  cases classified with
  | malformed isTextAgain isNoPair =>
      obtain rfl := Option.some.inj (isText.symm.trans isTextAgain)
      rw [isPair] at isNoPair
      exact absurd rfl isNoPair
  | divided isTextAgain isPairAgain sourceOpen expectedOpen compiling =>
      obtain ⟨rfl, rfl⟩ := Home.sections_unique isText isPair isTextAgain isPairAgain
      cases compiling with
      | compiled generatedOpen ran producing =>
          exact ⟨sourceOpen, expectedOpen, generatedOpen, _, _, _, rfl, ran, producing⟩

theorem Course.classified
    (course : Course host settings mode artifacts home before (.ok outcome) after started) :
    ∃ left, Classification host settings mode artifacts home before (.ok outcome) left started ∧
      (((mode.purges && !outcome.isFailure) = false ∧ after = left) ∨
        ((mode.purges && !outcome.isFailure) = true ∧
          (∀ role ∈ Role.derived, home.IsOpen left role) ∧
          after = home.clear left Role.derived)) := by
  cases course with
  | kept classified keeps => exact ⟨after, classified, Or.inl ⟨keeps, rfl⟩⟩
  | purged classified purges areOpen =>
      exact ⟨_, classified, Or.inr ⟨purges, areOpen, rfl⟩⟩

theorem Comparison.passes {output : ProcessOutput} {raw : Text} {ready compiled left : Disk}
    (diffWrites : host.WritesNothing (comparison settings artifacts).command)
    (houses : before.Houses artifacts home) (compiledHouses : compiled.Houses artifacts home)
    (touches : home.Touches [.generated] (home.split before source expected) compiled)
    (isContent : before.read artifacts.fixture = .ok content)
    (isReady : IsReady artifacts source expected before ready)
    (ran : (compilation settings artifacts).Ran host ready output compiled)
    (succeeded : output.success = true) (isRaw : home.text? compiled .generated = some raw)
    (ending : ((mode.purges && !outcome.isFailure) = false ∧ after = left) ∨
      ((mode.purges && !outcome.isFailure) = true ∧ (∀ role ∈ Role.derived, home.IsOpen left role) ∧
      after = home.clear left Role.derived))
    (comparing : Comparison host settings mode artifacts home source raw compiled (.ok outcome)
      left) :
    PassesThrough host settings mode artifacts content source expected outcome before after
      [compilation settings artifacts, comparison settings artifacts] := by
  have compiledOpen := Home.open_of_text? isRaw
  have isFile : compiled.isFile artifacts.generated =
      (home.text? compiled .generated).isSome := compiledHouses.isFile_eq .generated
  rw [isRaw] at isFile
  obtain ⟨bytes, executable, isEntry, rfl⟩ := Home.text?_eq_some_iff.mp isRaw
  cases comparing with
  | @compared compared seen _ _ ranAgain verdict =>
      obtain rfl := ranAgain.left_eq diffWrites
      have seenHouses : (shown settings home compiled (decode bytes)).Houses artifacts home :=
        compiledHouses.store _ compiledOpen
      have isShown := isShown_of_compiled settings (decode bytes) touches
      have isOther : outcome ≠ .compileError := by
        rintro rfl
        cases verdict with
        | mismatched differed isNoUpdate logging => cases logging
      refine ⟨ready, output, compiled, isReady, ran,
        iff_of_false isOther (by simp [succeeded, isFile]), fun isError => absurd isError isOther,
        fun _ => ⟨bytes, _, compared, compiledHouses.read_of_entry .generated isEntry,
          compiledHouses.write_of_open .generated _ compiledOpen, ranAgain, rfl,
          verdict.outcome_eq, ?_⟩⟩
      rcases ending with ⟨keeps, rfl⟩ | ⟨purges, areOpen, rfl⟩
      · exact leavesComparison_of_kept houses seenHouses isShown isContent verdict keeps
      · exact leavesComparison_of_purged houses seenHouses isShown isContent verdict purges areOpen

theorem passesThrough_of_course
    (compilerWrites : host.WritesOnly (compilation settings artifacts).command
      artifacts.generated)
    (diffWrites : host.WritesNothing (comparison settings artifacts).command)
    (houses : before.Houses artifacts home)
    (isContent : before.read artifacts.fixture = .ok content)
    (isPair : Fixture.sections (decode content) = [source, expected])
    (course : Course host settings mode artifacts home before (.ok outcome) after started) :
    PassesThrough host settings mode artifacts content source expected outcome before after
      started := by
  have isText := (houses.text?_iff .fixture _).mpr ⟨content, isContent, rfl⟩
  obtain ⟨left, classified, ending⟩ := course.classified
  obtain ⟨sourceOpen, expectedOpen, generatedOpen, output, compiled, rest, rfl, ran, producing⟩ :=
    classified.compiled_of_pair isText isPair
  have splitHouses := houses.split source expected sourceOpen expectedOpen
  have discards : home.Touches [.generated] (home.split before source expected)
      ((home.split before source expected).erase (home.place .generated)) :=
    .erase home _ .generated
  obtain ⟨compiles, compiledHouses⟩ :=
    ran.houses compilerWrites (splitHouses.erase generatedOpen) (by simp)
  have touches := discards.trans compiles
  have isReady := isReady_of_split houses sourceOpen expectedOpen generatedOpen
  -- A compile error is a failure, so nothing is removed after it.
  have after_eq (isError : outcome = .compileError) : after = left := by
    rcases ending with ⟨_, isAfter⟩ | ⟨purges, _⟩
    · exact isAfter
    · simp [isError, Outcome.isFailure] at purges
  cases producing with
  | unsuccessful failed logging =>
      obtain ⟨isError, leaves⟩ := leavesCompileError_of_logging output compiledHouses touches
        (by simp [Artifacts.errorText, compileLog, failed]) logging
      rw [after_eq isError]
      exact ⟨_, output, compiled, isReady, ran, iff_of_true isError (Or.inl failed),
        fun _ => ⟨rfl, leaves⟩, fun isOther => absurd isError isOther⟩
  | missing succeeded isNoFile logging =>
      obtain ⟨isError, leaves⟩ := leavesCompileError_of_logging output compiledHouses touches
        (by simp [Artifacts.errorText, compileLog, withMissingNote, succeeded]) logging
      have isFile := compiledHouses.isFile_eq .generated
      rw [isNoFile] at isFile
      rw [after_eq isError]
      exact ⟨_, output, compiled, isReady, ran, iff_of_true isError (Or.inr isFile),
        fun _ => ⟨rfl, leaves⟩, fun isOther => absurd isError isOther⟩
  | produced succeeded isRaw comparing =>
      exact comparing.passes diffWrites houses compiledHouses touches isContent isReady ran
        succeeded isRaw ending

theorem PassesThrough.ne_malformed
    (passes : PassesThrough host settings mode artifacts content source expected outcome before
      after started) :
    outcome ≠ .malformed := by
  rintro rfl
  obtain ⟨_, _, _, _, _, _, _, compares⟩ := passes
  obtain ⟨_, _, compared, _, _, _, _, isOutcome, _⟩ := compares nofun
  split at isOutcome
  · cases isOutcome
  · split at isOutcome <;> cases isOutcome

end Returned

/-- Running a fixture.  Whenever an outcome is returned, the fixture was read.  It is malformed
exactly if it has another number of sections than two, and then no program has run and
nothing has changed.  With two sections, it has passed through compiling and comparing to
an outcome and a final state that what the programs did determines. -/
theorem runFixture_passes_through {host : Host} {settings : Settings} {mode : RunMode}
    {path : Path} {before after : Workspace} {outcome : Outcome}
    (isFixture : path.isFixture = true)
    (noLinks : (Artifacts.ofFixture path).NoLinks before.disk)
    (compilerWrites : host.WritesOnly
      (compilation settings (Artifacts.ofFixture path)).command
      (Artifacts.ofFixture path).generated)
    (diffWrites : host.WritesNothing (comparison settings (Artifacts.ofFixture path)).command)
    (returned : (runFixture host settings mode path).run before = (.ok outcome, after)) :
    ∃ content started, before.disk.read path = .ok content ∧
      Log.startedCommands after.log = Log.startedCommands before.log ++
        started.map (fun invocation => .plain invocation.display) ∧
      (outcome = .malformed ↔ (Fixture.sections (Text.decode content)).length ≠ 2) ∧
      (outcome = .malformed → started = [] ∧ after.disk = before.disk ∧
        ∀ other : Host, (runFixture other settings mode path).run before =
          (.ok .malformed, after)) ∧
      ∀ source expected, Fixture.sections (Text.decode content) = [source, expected] →
        PassesThrough host settings mode (Artifacts.ofFixture path) content source expected
          outcome before.disk after.disk started := by
  obtain ⟨_, _, ranClassify, _⟩ := Action.run_bind_eq_ok _ returned
  obtain ⟨_, _, ranSplit, _⟩ := Action.run_bind_eq_ok _ ranClassify
  obtain ⟨content, isRead⟩ := Artifacts.split_reads ranSplit
  by_cases isPair : (Fixture.sections (Text.decode content)).length = 2
  · obtain ⟨source, expected, isPair⟩ := List.length_eq_two.mp isPair
    obtain ⟨home, houses⟩ :=
      Artifacts.houses_of_pair isFixture noLinks isRead isPair ranSplit
    obtain ⟨result, final, started, course, ends⟩ := runFixture_ends mode
      ⟨compilerWrites, diffWrites.writesOnly _⟩ houses
    obtain ⟨rfl, rfl, isStarted⟩ := ends.eq_of_run returned
    have passes := passesThrough_of_course compilerWrites diffWrites houses isRead isPair course
    refine ⟨content, started, isRead, isStarted, ?_, ?_, ?_⟩
    · exact iff_of_false passes.ne_malformed (by simp [isPair])
    · exact fun isMalformed => absurd isMalformed passes.ne_malformed
    · intro first second isPairAgain
      have isText := (houses.text?_iff .fixture _).mpr ⟨content, isRead, rfl⟩
      obtain ⟨rfl, rfl⟩ := Home.sections_unique isText isPair isText isPairAgain
      exact passes
  · obtain ⟨isResult, isLeft, isStarted⟩ :=
      (runFixture_ends_malformed host settings mode isRead isPair).eq_of_run returned
    obtain rfl := Except.ok.inj isResult
    refine ⟨content, [], isRead, isStarted, iff_of_true rfl isPair, ?_, ?_⟩
    · exact fun _ => ⟨rfl, isLeft, fun other =>
        (runFixture_malformed_eq other host settings mode isRead isPair).trans returned⟩
    · intro source expected isPairAgain
      rw [isPairAgain] at isPair
      exact absurd rfl isPair

/-- A compiler that translates its source, and a comparison whose exit status is read off the
disk. -/
def sampleHost (compiler : String) (source generated : Path) (translate : Bytes → Bytes)
    (status : Disk → Nat) : Host :=
  fun command disk =>
    if command.program = compiler then
      match (do disk.write generated (translate (← disk.read source))) with
      | .ok after => (.ok { ending := some (.exited 0) }, after)
      | .error cause => (.error (.start cause), disk)
    else
      (.ok { ending := some (.exited (status disk)) }, disk)

section Sample

variable {compiler : String} {source generated : Path} {translate : Bytes → Bytes}
  {status : Disk → Nat}

theorem sampleHost_writesOnly (command : Command) :
    (sampleHost compiler source generated translate status).WritesOnly command generated := by
  intro disk isNoLink
  unfold sampleHost
  by_cases isCompiler : command.program = compiler
  · rw [if_pos isCompiler]
    cases isRead : disk.read source with
    | error cause => exact ⟨⟨rfl, fun _ _ => rfl⟩, isNoLink⟩
    | ok content =>
        cases isWritten : disk.write generated (translate content) with
        | ok after =>
            simp only [bind, Except.bind, isWritten]
            exact Disk.sameExcept_of_write isNoLink isWritten
        | error cause =>
            simp only [bind, Except.bind, isWritten]
            exact ⟨⟨rfl, fun _ _ => rfl⟩, isNoLink⟩
  · rw [if_neg isCompiler]
    exact ⟨⟨rfl, fun _ _ => rfl⟩, isNoLink⟩

theorem sampleHost_writesNothing {command : Command} (isOther : command.program ≠ compiler) :
    (sampleHost compiler source generated translate status).WritesNothing command := by
  intro disk
  rw [sampleHost, if_neg isOther]

end Sample

def staleDisk : Disk :=
  (((Disk.empty ["work"]).put ["work", "a.tst"]
        (.file (Text.toBytes "x\n========\ny\n") false)).put ["work", "a.ll"]
      (.file (Text.toBytes "old text") false)).put ["work", "a.err"]
    (.file (Text.toBytes "old errors") false)

theorem staleDisk_noLinks : (ofFixture ⟨"a.tst"⟩).NoLinks staleDisk := by
  intro role
  cases role <;> decide

theorem sampleArtifacts_eq : ofFixture ⟨"a.tst"⟩ =
    ⟨⟨"a.tst"⟩, ⟨"a.syp"⟩, ⟨"a.exp"⟩, ⟨"a.ll"⟩, ⟨"a.err"⟩⟩ := by
  decide

theorem sampleHouses {disk : Disk} (noLinks : (ofFixture ⟨"a.tst"⟩).NoLinks disk) :
    disk.Houses (ofFixture ⟨"a.tst"⟩) ⟨disk.here, "a"⟩ := by
  have leads (role : Role) : disk.Leads ((ofFixture ⟨"a.tst"⟩).path role) disk.here
      (Home.name ⟨disk.here, "a"⟩ role) := by
    rw [sampleArtifacts_eq]
    cases role <;> exact Disk.leads_name (by unfold Disk.IsName; decide) (by decide)
      (by decide) (by decide) (by decide)
  exact ⟨leads, fun role => (leads role).isLink_eq_false_iff.mp (noLinks role)⟩

def sampleSettings : Settings :=
  { compiler := "cc", normalizer := ⟨[]⟩ }

/-- A compiler that writes one text, whatever its source is, and a comparison that fails. -/
def differingHost (content : String) : Host :=
  sampleHost "cc" ⟨"a.syp"⟩ ⟨"a.ll"⟩ (fun _ => Text.toBytes content) fun _ => 1

theorem runFixture_passes_through_staleDisk :
    ∃ after content started,
      (runFixture (differingHost "z \n\n") sampleSettings .update
        ⟨"a.tst"⟩).run { disk := staleDisk } = (.ok .updated, after) ∧
      PassesThrough (differingHost "z \n\n") sampleSettings .update
        (Artifacts.ofFixture ⟨"a.tst"⟩) content "x\n".toList "\ny\n".toList .updated staleDisk
        after.disk started := by
  have noLinks : (Artifacts.ofFixture ⟨"a.tst"⟩).NoLinks { disk := staleDisk : Workspace }.disk :=
    staleDisk_noLinks
  have compilerWrites : (differingHost "z \n\n").WritesOnly
      (compilation sampleSettings (Artifacts.ofFixture ⟨"a.tst"⟩)).command
      (Artifacts.ofFixture ⟨"a.tst"⟩).generated := by
    rw [sampleArtifacts_eq]
    exact sampleHost_writesOnly _
  have diffWrites : (differingHost "z \n\n").WritesNothing
      (comparison sampleSettings (Artifacts.ofFixture ⟨"a.tst"⟩)).command :=
    sampleHost_writesNothing (by decide)
  have isUpdated : ((runFixture (differingHost "z \n\n")
      sampleSettings .update ⟨"a.tst"⟩).run { disk := staleDisk }).1 = .ok .updated := by
    decide +kernel
  have returned := Action.run_eq_of_result _ isUpdated
  obtain ⟨content, started, isRead, _, _, _, passes⟩ :=
    runFixture_passes_through sampleIsFixture noLinks compilerWrites diffWrites returned
  have isContent : staleDisk.read ⟨"a.tst"⟩ = .ok (Text.toBytes "x\n========\ny\n") := by
    decide +kernel
  obtain rfl := Except.ok.inj (isRead.symm.trans isContent)
  exact ⟨_, _, started, returned, passes _ _ (by decide +kernel)⟩

end Batch

end FixtureRunner
