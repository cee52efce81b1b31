/-
The courses that running a fixture can take.

Each function has a relation of its own between the disk before, the result, the disk it
leaves and the programs it starts.  Every run of a housed fixture takes one of these
courses, whether it returns an outcome or fails.
-/

import FixtureRunner.Batch.Run
import FixtureRunner.Proofs.Fixture.Actions

namespace FixtureRunner

/-- On every disk the command changes at most what a path names, and makes no link there. -/
def Host.WritesOnly (host : Host) (command : Command) (path : Path) : Prop :=
  ∀ disk : Disk, disk.isLink path = false →
    disk.SameExcept [path] (host command disk).2 ∧ (host command disk).2.isLink path = false

section WritesOnly

variable {host : Host} {artifacts : Artifacts} {home : Home} {disk : Disk}

theorem Host.WritesOnly.houses {command : Command}
    (writesOnly : host.WritesOnly command artifacts.generated) (houses : disk.Houses artifacts home)
    (isOpen : home.IsOpen disk .generated) :
    home.Touches [.generated] disk (host command disk).2 ∧
      (host command disk).2.Houses artifacts home := by
  obtain ⟨same, isNoLinkAfter⟩ := writesOnly disk (houses.isLink_eq_false .generated)
  have touches : home.Touches [.generated] disk (host command disk).2 := houses.touches same
  have isNoFolder : ∀ role ∈ [Role.generated], home.IsOpen disk role := by
    simpa using isOpen
  refine ⟨touches, houses.touch touches isNoFolder ?_⟩
  intro role member
  obtain rfl := List.mem_singleton.mp member
  have leads := (houses.leads .generated).mono (houses.keepsRoutes touches isNoFolder)
  exact leads.isLink_eq_false_iff.mp isNoLinkAfter

variable {invocation : Invocation} {left : Disk}

theorem Invocation.Ran.houses {output : ProcessOutput} (ran : invocation.Ran host disk output left)
    (writesOnly : host.WritesOnly invocation.command artifacts.generated)
    (houses : disk.Houses artifacts home) (isOpen : home.IsOpen disk .generated) :
    home.Touches [.generated] disk left ∧ left.Houses artifacts home := by
  obtain ⟨performance, isPerformed, _⟩ := ran.performed
  have wrote := writesOnly.houses houses isOpen
  rw [isPerformed] at wrote
  exact wrote

theorem Invocation.Refused.houses (refused : invocation.Refused host disk left)
    (writesOnly : host.WritesOnly invocation.command artifacts.generated)
    (houses : disk.Houses artifacts home) (isOpen : home.IsOpen disk .generated) :
    home.Touches [.generated] disk left ∧ left.Houses artifacts home := by
  cases refused with
  | unsendable hasNul => exact ⟨.refl home [.generated] disk, houses⟩
  | unperformed hasNoNul isRefused =>
      have wrote := writesOnly.houses houses isOpen
      rw [isRefused] at wrote
      exact wrote

end WritesOnly

namespace Batch

abbrev compilation (settings : Settings) (artifacts : Artifacts) : Invocation :=
  settings.compileInvocation artifacts.source

abbrev comparison (settings : Settings) (artifacts : Artifacts) : Invocation :=
  settings.diffInvocation artifacts.expected artifacts.generated

/-- Neither the compiler nor the comparison writes anything but the generated file. -/
structure Confined (host : Host) (settings : Settings) (artifacts : Artifacts) : Prop where
  compiles : host.WritesOnly (compilation settings artifacts).command artifacts.generated
  compares : host.WritesOnly (comparison settings artifacts).command artifacts.generated

section Courses

variable (host : Host) (settings : Settings) (mode : RunMode) (artifacts : Artifacts) (home : Home)

inductive Logging (output : ProcessOutput) (outcome : Outcome) (left : Disk) :
    Except Failure Outcome → Disk → Prop
  | logged (isOpen : left.entryAt? (home.place .errorLog) ≠ some .folder) :
      Logging output outcome left (.ok outcome)
        (left.store (home.place .errorLog) (Text.encode (Artifacts.errorText output)))
  | unlogged {failure : Failure}
      (isFolder : left.entryAt? (home.place .errorLog) = some .folder) :
      Logging output outcome left (.error failure) left

inductive Verdict (source : Text) (output : ProcessOutput) (left : Disk) :
    Except Failure Outcome → Disk → Prop
  | matched (succeeded : output.success = true) : Verdict source output left (.ok .ok) left
  | rebuilt {generated : Text} (differed : output.success = false) (isUpdate : mode = .update)
      (isGenerated : home.text? left .generated = some generated) :
      Verdict source output left (.ok .updated)
        (left.store (home.place .fixture) (Text.encode (Fixture.assemble source generated)))
  | unrebuilt {failure : Failure} (differed : output.success = false)
      (isUpdate : mode = .update) (isNoFile : home.text? left .generated = none) :
      Verdict source output left (.error failure) left
  | mismatched {result : Except Failure Outcome} {final : Disk}
      (differed : output.success = false) (isNoUpdate : mode ≠ .update)
      (logging : Logging home output .diffMismatch left result final) :
      Verdict source output left result final

/-- The disk with the generated text normalized. -/
def shown (compiled : Disk) (raw : Text) : Disk :=
  compiled.store (home.place .generated) (Text.encode (settings.normalizer.normalize raw))

inductive Comparison (source raw : Text) (compiled : Disk) :
    Except Failure Outcome → Disk → Prop
  | unstarted {failure : Failure} {left : Disk}
      (refused : (comparison settings artifacts).Refused host
        (shown settings home compiled raw) left) :
      Comparison source raw compiled (.error failure) left
  | compared {output : ProcessOutput} {left final : Disk} {result : Except Failure Outcome}
      (ran : (comparison settings artifacts).Ran host
        (shown settings home compiled raw) output left)
      (verdict : Verdict mode home source output left result final) :
      Comparison source raw compiled result final

inductive Production (source : Text) (output : ProcessOutput) (left : Disk) :
    Except Failure Outcome → Disk → List Invocation → Prop
  | unsuccessful {final : Disk} {result : Except Failure Outcome}
      (failed : output.success = false)
      (logging : Logging home output .compileError left result final) :
      Production source output left result final []
  | missing {final : Disk} {result : Except Failure Outcome}
      (succeeded : output.success = true) (isNoFile : home.text? left .generated = none)
      (logging : Logging home (withMissingNote output artifacts.generated) .compileError left
        result final) :
      Production source output left result final []
  | produced {raw : Text} {final : Disk} {result : Except Failure Outcome}
      (succeeded : output.success = true) (isRaw : home.text? left .generated = some raw)
      (comparing : Comparison host settings mode artifacts home source raw left result final) :
      Production source output left result final [comparison settings artifacts]

inductive Compilation (source : Text) (divided : Disk) :
    Except Failure Outcome → Disk → List Invocation → Prop
  | blocked {failure : Failure}
      (isFolder : divided.entryAt? (home.place .generated) = some .folder) :
      Compilation source divided (.error failure) divided []
  | unstarted {failure : Failure} {left : Disk}
      (isOpen : divided.entryAt? (home.place .generated) ≠ some .folder)
      (refused : (compilation settings artifacts).Refused host
        (divided.erase (home.place .generated)) left) :
      Compilation source divided (.error failure) left [compilation settings artifacts]
  | compiled {output : ProcessOutput} {left final : Disk} {result : Except Failure Outcome}
      {started : List Invocation}
      (isOpen : divided.entryAt? (home.place .generated) ≠ some .folder)
      (ran : (compilation settings artifacts).Ran host
        (divided.erase (home.place .generated)) output left)
      (producing : Production host settings mode artifacts home source output left result final
        started) :
      Compilation source divided result final (compilation settings artifacts :: started)

/-- What comes of classifying a fixture. -/
inductive Classification (before : Disk) :
    Except Failure Outcome → Disk → List Invocation → Prop
  | unsplit {failure : Failure} {left : Disk}
      (fails : Artifacts.SplitFails home before left) :
      Classification before (.error failure) left []
  | malformed {text : Text} (isText : home.text? before .fixture = some text)
      (isNoPair : (Fixture.sections text).length ≠ 2) :
      Classification before (.ok .malformed) before []
  | divided {text source expected : Text} {final : Disk} {result : Except Failure Outcome}
      {started : List Invocation} (isText : home.text? before .fixture = some text)
      (isPair : Fixture.sections text = [source, expected])
      (sourceOpen : before.entryAt? (home.place .source) ≠ some .folder)
      (expectedOpen : before.entryAt? (home.place .expected) ≠ some .folder)
      (compiling : Compilation host settings mode artifacts home source
        (home.split before source expected) result final started) :
      Classification before result final started

/-- What comes of running a fixture. -/
inductive Course (before : Disk) : Except Failure Outcome → Disk → List Invocation → Prop
  | stopped {failure : Failure} {left : Disk} {started : List Invocation}
      (classified : Classification host settings mode artifacts home before (.error failure)
        left started) :
      Course before (.error failure) left started
  | kept {outcome : Outcome} {left : Disk} {started : List Invocation}
      (classified : Classification host settings mode artifacts home before (.ok outcome)
        left started)
      (keeps : (mode.purges && !outcome.isFailure) = false) :
      Course before (.ok outcome) left started
  | purged {outcome : Outcome} {left : Disk} {started : List Invocation}
      (classified : Classification host settings mode artifacts home before (.ok outcome)
        left started)
      (purges : (mode.purges && !outcome.isFailure) = true)
      (areOpen : ∀ role ∈ Role.derived, left.entryAt? (home.place role) ≠ some .folder) :
      Course before (.ok outcome) (home.clear left Role.derived) started
  | unpurged {failure : Failure} {outcome : Outcome} {left : Disk} {started : List Invocation}
      {removed rest : List Role} {blocked : Role}
      (classified : Classification host settings mode artifacts home before (.ok outcome)
        left started)
      (purges : (mode.purges && !outcome.isFailure) = true)
      (isCut : Role.derived = removed ++ blocked :: rest)
      (areOpen : ∀ role ∈ removed, left.entryAt? (home.place role) ≠ some .folder)
      (isFolder : left.entryAt? (home.place blocked) = some .folder) :
      Course before (.error failure) (home.clear left removed) started

end Courses

/-! ### One course only -/

section Determined

variable {host : Host} {settings : Settings} {mode : RunMode} {artifacts : Artifacts}
  {home : Home} {result : Except Failure Outcome} {source raw : Text} {output : ProcessOutput}
  {before left final : Disk} {started : List Invocation}

theorem Verdict.rebuilt_of_update {generated : Text}
    (verdict : Verdict mode home source output left result final)
    (differed : output.success = false) (isUpdate : mode = .update)
    (isGenerated : home.text? left .generated = some generated) :
    result = .ok .updated ∧ final = left.store (home.place .fixture)
      (Text.encode (Fixture.assemble source generated)) := by
  cases verdict with
  | matched succeeded => simp [succeeded] at differed
  | rebuilt _ _ isGeneratedAgain =>
      obtain rfl := Option.some.inj (isGenerated.symm.trans isGeneratedAgain)
      exact ⟨rfl, rfl⟩
  | unrebuilt _ _ isNoFile => simp [isNoFile] at isGenerated
  | mismatched _ isNoUpdate _ => exact absurd isUpdate isNoUpdate

theorem Verdict.matched_of_success (verdict : Verdict mode home source output left result final)
    (succeeded : output.success = true) : result = .ok .ok ∧ final = left := by
  cases verdict with
  | matched _ => exact ⟨rfl, rfl⟩
  | rebuilt differed _ _ => simp [succeeded] at differed
  | unrebuilt differed _ _ => simp [succeeded] at differed
  | mismatched differed _ _ => simp [succeeded] at differed

theorem Comparison.verdict_of_ran {compiled : Disk}
    (comparing : Comparison host settings mode artifacts home source raw compiled result final)
    (ran : (comparison settings artifacts).Ran host (shown settings home compiled raw) output
      left) :
    Verdict mode home source output left result final := by
  cases comparing with
  | unstarted refused => exact (ran.not_refused refused).elim
  | compared ranAgain verdict =>
      obtain ⟨rfl, rfl⟩ := ran.unique ranAgain
      exact verdict

theorem Production.comparing_of_file
    (producing : Production host settings mode artifacts home source output left result final
      started)
    (succeeded : output.success = true) (isRaw : home.text? left .generated = some raw) :
    Comparison host settings mode artifacts home source raw left result final := by
  cases producing with
  | unsuccessful failed _ => simp [succeeded] at failed
  | missing _ isNoFile _ => simp [isNoFile] at isRaw
  | produced _ isRawAgain comparing =>
      obtain rfl := Option.some.inj (isRaw.symm.trans isRawAgain)
      exact comparing

theorem Compilation.producing_of_ran {divided : Disk}
    (compiling : Compilation host settings mode artifacts home source divided result final started)
    (isOpen : home.IsOpen divided .generated)
    (ran : (compilation settings artifacts).Ran host (divided.erase (home.place .generated)) output
      left) :
    ∃ rest, Production host settings mode artifacts home source output left result final rest := by
  cases compiling with
  | blocked isFolder => exact absurd isFolder isOpen
  | unstarted _ refused => exact (ran.not_refused refused).elim
  | compiled _ ranAgain producing =>
      obtain ⟨rfl, rfl⟩ := ran.unique ranAgain
      exact ⟨_, producing⟩

theorem Classification.compiling_of_pair {text expected : Text}
    (classified : Classification host settings mode artifacts home before result final started)
    (isText : home.text? before .fixture = some text)
    (isPair : Fixture.sections text = [source, expected]) (sourceOpen : home.IsOpen before .source)
    (expectedOpen : home.IsOpen before .expected) :
    Compilation host settings mode artifacts home source (home.split before source expected)
      result final started := by
  cases classified with
  | unsplit fails =>
      cases fails with
      | unreadable isNoFile => simp [isNoFile] at isText
      | sourceBlocked _ _ isFolder => exact absurd isFolder sourceOpen
      | expectedBlocked _ _ _ isFolder => exact absurd isFolder expectedOpen
  | malformed isTextAgain isNoPair =>
      obtain rfl := Option.some.inj (isText.symm.trans isTextAgain)
      rw [isPair] at isNoPair
      exact absurd rfl isNoPair
  | divided isTextAgain isPairAgain _ _ compiling =>
      obtain ⟨rfl, rfl⟩ := Home.sections_unique isText isPair isTextAgain isPairAgain
      exact compiling

end Determined

/-! ### What a course leaves in place -/

section Frame

variable {host : Host} {settings : Settings} {mode : RunMode} {artifacts : Artifacts}
  {home : Home} {result : Except Failure Outcome} {source raw : Text} {output : ProcessOutput}
  {before left final : Disk} {started : List Invocation}

/-- The fixture stays at home and is rewritten by an update only; the files of its sections can be
written as before. -/
structure Leaves (artifacts : Artifacts) (home : Home) (result : Except Failure Outcome)
    (before after : Disk) : Prop where
  houses : after.Houses artifacts home
  touches : home.Touches (.fixture :: Role.derived) before after
  isOpen : ∀ role ∈ [Role.source, .expected], home.IsOpen before role → home.IsOpen after role
  fixture : result ≠ .ok .updated →
    after.entryAt? (home.place .fixture) = before.entryAt? (home.place .fixture)

namespace Leaves

variable {disk between : Disk}

theorem generated (touches : home.Touches [.generated] before between)
    (leaves : Leaves artifacts home result between left) :
    Leaves artifacts home result before left where
  houses := leaves.houses
  touches := (touches.mono (by decide)).trans leaves.touches
  isOpen role isSection isOpen := by
    have isOther : role ∉ [Role.generated] := by
      revert isSection
      cases role <;> decide
    exact leaves.isOpen role isSection (touches.isOpen isOther isOpen)
  fixture isOther := (leaves.fixture isOther).trans (touches.entry (by decide))

theorem same (houses : disk.Houses artifacts home) : Leaves artifacts home result disk disk :=
  ⟨houses, .refl home _ disk, fun _ _ isOpen => isOpen, fun _ => rfl⟩

theorem store {role : Role} {content : Bytes} (houses : disk.Houses artifacts home)
    (isOpen : home.IsOpen disk role) (isKept : result ≠ .ok .updated → Role.fixture ≠ role) :
    Leaves artifacts home result disk (disk.store (home.place role) content) where
  houses := houses.store content isOpen
  touches := (Home.Touches.store home disk role content).mono (by cases role <;> decide)
  isOpen _ _ := Home.store_open content
  fixture isOther :=
    (Home.Touches.store home disk role content).entry (by simpa using isKept isOther)

end Leaves

theorem Logging.leaves {outcome : Outcome} (houses : left.Houses artifacts home)
    (logging : Logging home output outcome left result final) :
    Leaves artifacts home result left final := by
  cases logging with
  | logged isOpen => exact .store houses isOpen fun _ => nofun
  | unlogged isFolder => exact .same houses

theorem Verdict.leaves (houses : left.Houses artifacts home) (isOpen : home.IsOpen left .fixture)
    (verdict : Verdict mode home source output left result final) :
    Leaves artifacts home result left final := by
  cases verdict with
  | matched succeeded => exact .same houses
  | rebuilt differed isUpdate isGenerated =>
      exact .store houses isOpen fun isOther => absurd rfl isOther
  | unrebuilt differed isUpdate isNoFile => exact .same houses
  | mismatched differed isNoUpdate logging => exact logging.leaves houses

section Confined

variable (confined : Confined host settings artifacts)

include confined

theorem Comparison.leaves {compiled : Disk} (houses : compiled.Houses artifacts home)
    (isRaw : home.text? compiled .generated = some raw) (isOpen : home.IsOpen compiled .fixture)
    (comparing : Comparison host settings mode artifacts home source raw compiled result final) :
    Leaves artifacts home result compiled final := by
  have shownHouses : (shown settings home compiled raw).Houses artifacts home :=
    houses.store _ (Home.open_of_text? isRaw)
  have shownOpen : home.IsOpen (shown settings home compiled raw) .generated := by
    simp [shown]
  have shows : home.Touches [.generated] compiled (shown settings home compiled raw) :=
    .store home compiled .generated _
  cases comparing with
  | unstarted refused =>
      obtain ⟨touches, leftHouses⟩ := refused.houses confined.compares shownHouses shownOpen
      exact .generated (shows.trans touches) (.same leftHouses)
  | compared ran verdict =>
      obtain ⟨touches, leftHouses⟩ := ran.houses confined.compares shownHouses shownOpen
      have reaches := shows.trans touches
      exact .generated reaches (verdict.leaves leftHouses (reaches.isOpen (by decide) isOpen))

theorem Production.leaves (houses : left.Houses artifacts home) (isOpen : home.IsOpen left .fixture)
    (producing : Production host settings mode artifacts home source output left result final
      started) : Leaves artifacts home result left final := by
  cases producing with
  | unsuccessful failed logging => exact logging.leaves houses
  | missing succeeded isNoFile logging => exact logging.leaves houses
  | produced succeeded isRaw comparing => exact comparing.leaves confined houses isRaw isOpen

theorem Compilation.leaves {divided : Disk} (houses : divided.Houses artifacts home)
    (isOpen : home.IsOpen divided .fixture)
    (compiling : Compilation host settings mode artifacts home source divided result final
      started) : Leaves artifacts home result divided final := by
  have discards : home.Touches [.generated] divided (divided.erase (home.place .generated)) :=
    .erase home divided .generated
  have readyOpen : home.IsOpen (divided.erase (home.place .generated)) .generated := by
    simp
  cases compiling with
  | blocked isFolder => exact .same houses
  | unstarted generatedOpen refused =>
      obtain ⟨touches, leftHouses⟩ :=
        refused.houses confined.compiles (houses.erase generatedOpen) readyOpen
      exact .generated (discards.trans touches) (.same leftHouses)
  | compiled generatedOpen ran producing =>
      obtain ⟨touches, leftHouses⟩ :=
        ran.houses confined.compiles (houses.erase generatedOpen) readyOpen
      have reaches := discards.trans touches
      exact .generated reaches
        (producing.leaves confined leftHouses (reaches.isOpen (by decide) isOpen))

theorem Classification.leaves (houses : before.Houses artifacts home)
    (classified : Classification host settings mode artifacts home before result left started) :
    Leaves artifacts home result before left := by
  cases classified with
  | unsplit fails =>
      refine ⟨fails.houses houses, fails.touches.mono (by decide), fun role _ isOpen => ?_,
        fun _ => fails.touches.entry (by decide)⟩
      cases fails with
      | unreadable isNoFile => exact isOpen
      | sourceBlocked isText isPair isFolder => exact isOpen
      | expectedBlocked isText isPair sourceOpen isFolder => exact Home.store_open _ isOpen
  | malformed isText isNoPair => exact .same houses
  | @divided _ source expected _ _ _ isText isPair sourceOpen expectedOpen compiling =>
      have splits := home.touches_split before source expected
      have leaves := compiling.leaves confined (houses.split _ _ sourceOpen expectedOpen)
        (splits.isOpen (by decide) (Home.open_of_text? isText))
      refine ⟨leaves.houses, (splits.mono (by decide)).trans leaves.touches, ?_,
        fun isOther => (leaves.fixture isOther).trans (splits.entry (by decide))⟩
      intro role isSection isOpen
      exact leaves.isOpen role isSection (Home.store_open _ (Home.store_open _ isOpen))

end Confined

theorem Course.clears
    (course : Course host settings mode artifacts home before result final started) :
    ∃ classifiedAs left removed,
      Classification host settings mode artifacts home before classifiedAs left started ∧
      (∀ role ∈ removed, role ≠ .fixture) ∧
      (∀ role ∈ removed, home.IsOpen left role) ∧
      final = home.clear left removed := by
  have isDerived : ∀ role ∈ Role.derived, role ≠ .fixture := by decide
  cases course with
  | stopped classified => exact ⟨_, _, [], classified, by simp, by simp, rfl⟩
  | kept classified keeps => exact ⟨_, _, [], classified, by simp, by simp, rfl⟩
  | purged classified purges areOpen => exact ⟨_, _, _, classified, isDerived, areOpen, rfl⟩
  | unpurged classified purges isCut areOpen isFolder =>
      refine ⟨_, _, _, classified, fun role member => isDerived role ?_, areOpen, rfl⟩
      rw [isCut]
      exact List.mem_append_left _ member

theorem Course.touches (confined : Confined host settings artifacts)
    (houses : before.Houses artifacts home)
    (course : Course host settings mode artifacts home before result final started) :
    home.Touches (.fixture :: Role.derived) before final := by
  obtain ⟨classifiedAs, left, removed, classified, _, _, rfl⟩ := course.clears
  refine (classified.leaves confined houses).touches.trans
    ((home.touches_clear left removed).mono ?_)
  intro role _
  cases role <;> decide

end Frame

/-! ### Every run takes a course -/

section Runs

open FixtureRunner.Action

variable {host : Host} {settings : Settings} {artifacts : Artifacts} {home : Home}
  {disk left : Disk} {source : Text}

theorem logging_ends (houses : disk.Houses artifacts home) (output : ProcessOutput)
    (outcome : Outcome) :
    ∃ result final, Logging home output outcome disk result final ∧
      (do
        artifacts.writeErrorLog output
        return outcome : Action Outcome).Ends disk result final [] := by
  by_cases isFolder : disk.entryAt? (home.place .errorLog) = some .folder
  · exact ⟨_, _, .unlogged isFolder, (Artifacts.ends_write_folder houses _ isFolder).bind_error⟩
  · exact ⟨_, _, .logged isFolder,
      (Artifacts.ends_write houses _ isFolder).bind_later (ends_pure outcome)⟩

/-- The fixture is at home and can be written, and its source is in its file. -/
structure IsDivided (artifacts : Artifacts) (home : Home) (source : Text) (disk : Disk) :
    Prop where
  houses : disk.Houses artifacts home
  isSource : home.text? disk .source = some source
  isOpen : home.IsOpen disk .fixture

theorem IsDivided.touch (divided : IsDivided artifacts home source disk)
    (touches : home.Touches [.generated] disk left) (houses : left.Houses artifacts home) :
    IsDivided artifacts home source left := by
  refine ⟨houses, ?_, touches.isOpen (by decide) divided.isOpen⟩
  rw [Home.text?_of_entry (touches.entry (by decide))]
  exact divided.isSource

theorem verdict_ends (mode : RunMode) (divided : IsDivided artifacts home source disk)
    (output : ProcessOutput) :
    ∃ result final, Verdict mode home source output disk result final ∧
      (if output.success then
          return .ok
        else if mode = .update then do
          artifacts.rebuild
          return .updated
        else do
          artifacts.writeErrorLog output
          return .diffMismatch : Action Outcome).Ends disk result final [] := by
  cases succeeded : output.success with
  | true => exact ⟨.ok .ok, _, .matched succeeded, ends_pure Outcome.ok⟩
  | false =>
      by_cases isUpdate : mode = .update
      · rw [if_neg (by decide), if_pos isUpdate]
        cases isGenerated : home.text? disk .generated with
        | none =>
            obtain ⟨failure, stops⟩ :=
              Artifacts.rebuild_ends_unreadable divided.houses divided.isSource isGenerated
            exact ⟨.error failure, _, .unrebuilt succeeded isUpdate isGenerated,
              stops.bind_error⟩
        | some generated =>
            have rebuilds :=
              Artifacts.rebuild_ends divided.houses divided.isSource isGenerated divided.isOpen
            exact ⟨.ok .updated, _, .rebuilt succeeded isUpdate isGenerated,
              rebuilds.bind_later (ends_pure Outcome.updated)⟩
      · rw [if_neg (by decide), if_neg isUpdate]
        obtain ⟨result, final, logging, ends⟩ := logging_ends divided.houses output .diffMismatch
        exact ⟨result, final, .mismatched succeeded isUpdate logging, ends⟩

variable (mode : RunMode) (confined : Confined host settings artifacts)

include confined

theorem compare_ends {raw : Text} (divided : IsDivided artifacts home source disk)
    (isRaw : home.text? disk .generated = some raw) :
    ∃ result final, Comparison host settings mode artifacts home source raw disk result final ∧
      (compare host settings mode artifacts).Ends disk result final
        [comparison settings artifacts] := by
  obtain ⟨changed, normalizes⟩ := settings.normalizer.normalizeFile_ends divided.houses isRaw
  have shownDivided : IsDivided artifacts home source (shown settings home disk raw) :=
    divided.touch (.store home disk .generated _)
      (divided.houses.store _ (Home.open_of_text? isRaw))
  rcases (comparison settings artifacts).run_ends host (shown settings home disk raw) with
    ⟨output, left, ran, ends⟩ | ⟨failure, left, refused, ends⟩
  · obtain ⟨touches, leftHouses⟩ :=
      ran.houses confined.compares shownDivided.houses (by simp [shown])
    obtain ⟨result, final, verdict, judged⟩ :=
      verdict_ends mode (shownDivided.touch touches leftHouses) output
    exact ⟨result, final, .compared ran verdict, normalizes.bind_later (ends.bind judged)⟩
  · exact ⟨_, _, .unstarted refused, normalizes.bind_later ends.bind_error⟩

theorem production_ends (divided : IsDivided artifacts home source disk) (output : ProcessOutput) :
    ∃ result final started,
      Production host settings mode artifacts home source output disk result final started ∧
      (do
        if !output.success then do
          artifacts.writeErrorLog output
          return .compileError
        else if !(← Action.disk).isFile artifacts.generated then do
          artifacts.writeErrorLog (withMissingNote output artifacts.generated)
          return .compileError
        else
          compare host settings mode artifacts : Action Outcome).Ends disk result final
        started := by
  cases succeeded : output.success with
  | false =>
      obtain ⟨result, final, logging, logs⟩ := logging_ends divided.houses output .compileError
      exact ⟨result, final, [], .unsuccessful succeeded logging, logs⟩
  | true =>
      have isFile : disk.isFile artifacts.generated = (home.text? disk .generated).isSome :=
        divided.houses.isFile_eq .generated
      cases isRaw : home.text? disk .generated with
      | none =>
          obtain ⟨result, final, logging, logs⟩ := logging_ends divided.houses
            (withMissingNote output artifacts.generated) .compileError
          refine ⟨result, final, [], .missing succeeded isRaw logging, ends_disk.bind_later ?_⟩
          rw [isFile, isRaw]
          exact logs
      | some raw =>
          obtain ⟨result, final, comparing, compares⟩ := compare_ends mode confined divided isRaw
          refine ⟨result, final, _, .produced succeeded isRaw comparing, ends_disk.bind_later ?_⟩
          rw [isFile, isRaw]
          exact compares

theorem compileAndCompare_ends (divided : IsDivided artifacts home source disk) :
    ∃ result final started,
      Compilation host settings mode artifacts home source disk result final started ∧
      (compileAndCompare host settings mode artifacts).Ends disk result final started := by
  by_cases isFolder : disk.entryAt? (home.place .generated) = some .folder
  · exact ⟨_, _, _, .blocked isFolder,
      (Artifacts.ends_remove_folder divided.houses isFolder).bind_error⟩
  have discards := Artifacts.ends_remove divided.houses isFolder
  have readyDivided : IsDivided artifacts home source (disk.erase (home.place .generated)) :=
    divided.touch (.erase home disk .generated) (divided.houses.erase isFolder)
  rcases (compilation settings artifacts).run_ends host (disk.erase (home.place .generated)) with
    ⟨output, left, ran, ends⟩ | ⟨failure, left, refused, ends⟩
  · obtain ⟨touches, leftHouses⟩ := ran.houses confined.compiles readyDivided.houses (by simp)
    obtain ⟨result, final, started, producing, produces⟩ :=
      production_ends mode confined (readyDivided.touch touches leftHouses) output
    exact ⟨result, final, _, .compiled isFolder ran producing,
      discards.bind_later (ends.bind produces)⟩
  · exact ⟨_, _, _, .unstarted isFolder refused, discards.bind_later ends.bind_error⟩

theorem classify_ends (houses : disk.Houses artifacts home) :
    ∃ result final started,
      Classification host settings mode artifacts home disk result final started ∧
      (classify host settings mode artifacts).Ends disk result final started := by
  obtain ⟨result, left, splitting, splits⟩ := Artifacts.split_ends houses
  cases splitting with
  | failed fails => exact ⟨_, _, _, .unsplit fails, splits.bind_error⟩
  | malformed isText isNoPair =>
      exact ⟨.ok .malformed, _, _, .malformed isText isNoPair,
        splits.bind_later (ends_pure Outcome.malformed)⟩
  | @written text source expected isText isPair sourceOpen expectedOpen =>
      have divided : IsDivided artifacts home source (home.split disk source expected) := by
        refine ⟨houses.split source expected sourceOpen expectedOpen, ?_, ?_⟩
        · rw [Home.text?_split]
          rfl
        · exact (home.touches_split _ _ _).isOpen (by decide) (Home.open_of_text? isText)
      obtain ⟨result, final, started, compiling, ends⟩ :=
        compileAndCompare_ends mode confined divided
      exact ⟨result, final, started, .divided isText isPair sourceOpen expectedOpen compiling,
        splits.bind_later ends⟩

omit confined

theorem exists_blocked (home : Home) (disk : Disk) (roles : List Role) :
    (∀ role ∈ roles, home.IsOpen disk role) ∨
      ∃ removed blocked rest, roles = removed ++ blocked :: rest ∧
        (∀ role ∈ removed, home.IsOpen disk role) ∧
        disk.entryAt? (home.place blocked) = some .folder := by
  induction roles with
  | nil => simp
  | cons role rest ih =>
      by_cases isFolder : disk.entryAt? (home.place role) = some .folder
      · exact Or.inr ⟨[], role, rest, rfl, by simp, isFolder⟩
      · rcases ih with areOpen | ⟨removed, blocked, later, rfl, areOpen, isBlocked⟩
        · exact Or.inl (by simpa using ⟨isFolder, areOpen⟩)
        · exact Or.inr ⟨role :: removed, blocked, later, rfl,
            by simpa using ⟨isFolder, areOpen⟩, isBlocked⟩

theorem runFixture_ends {path : Path}
    (confined : Confined host settings (Artifacts.ofFixture path))
    (houses : disk.Houses (Artifacts.ofFixture path) home) :
    ∃ result final started,
      Course host settings mode (Artifacts.ofFixture path) home disk result final started ∧
      (runFixture host settings mode path).Ends disk result final started := by
  obtain ⟨result, left, started, classified, ends⟩ := classify_ends mode confined houses
  have leftHouses := (classified.leaves confined houses).houses
  cases result with
  | error failure => exact ⟨_, _, _, .stopped classified, ends.bind_error⟩
  | ok outcome =>
      suffices goesOn : ∃ result final,
          Course host settings mode (Artifacts.ofFixture path) home disk result final started ∧
          (do
            if mode.purges && !outcome.isFailure then
              (Artifacts.ofFixture path).purge
            return outcome : Action Outcome).Ends left result final [] by
        obtain ⟨result, final, course, goesOn⟩ := goesOn
        refine ⟨result, final, started, course, ends.bind_earlier ?_⟩
        exact (ends_record (by simp [Log.Event.startedCommand?])).bind_later goesOn
      cases purges : mode.purges && !outcome.isFailure with
      | false => exact ⟨_, _, .kept classified purges, ends_pure outcome⟩
      | true =>
          rcases exists_blocked home left Role.derived with
            areOpen | ⟨removed, blocked, rest, isCut, areOpen, isFolder⟩
          · exact ⟨_, _, .purged classified purges areOpen,
              (Artifacts.purge_ends leftHouses areOpen).bind_later (ends_pure outcome)⟩
          · exact ⟨_, _, .unpurged classified purges isCut areOpen isFolder,
              (Artifacts.purge_ends_blocked leftHouses isCut areOpen isFolder).bind_error⟩

end Runs

end Batch

end FixtureRunner
