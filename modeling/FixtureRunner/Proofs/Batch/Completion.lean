/-
When a run returns an outcome.

A run fails for a few reasons only: the fixture cannot be read, a folder is where a derived
file belongs, a program cannot be started, or the comparison takes the generated file away.
Without these it returns an outcome.
-/

import FixtureRunner.Proofs.Batch.Effects

namespace FixtureRunner

/-- The program can be started, whatever is on the disk. -/
structure Invocation.Starts (invocation : Invocation) (host : Host) : Prop where
  hasNoNul : invocation.hasNul = false
  performs : ∀ disk, ∃ performance, (host invocation.command disk).1 = .ok performance

theorem Invocation.Starts.not_refused {invocation : Invocation} {host : Host} {disk left : Disk}
    (starts : invocation.Starts host) : ¬ invocation.Refused host disk left := by
  intro refused
  cases refused with
  | unsendable hasNul =>
      rw [starts.hasNoNul] at hasNul
      cases hasNul
  | unperformed _ isRefused =>
      obtain ⟨performance, isPerformed⟩ := starts.performs disk
      rw [isRefused] at isPerformed
      cases isPerformed

namespace Batch

/-! ### Why a run fails -/

section Failing

variable (host : Host) (settings : Settings) (artifacts : Artifacts) (home : Home)

/-- What has stopped a run, with the disk on which it was stopped. -/
inductive Failing (before left : Disk) : Prop
  | unreadable (isNoFile : home.text? before .fixture = none) : Failing before left
  | blocked {role : Role} (isDerived : role ≠ .fixture)
      (isFolder : left.entryAt? (home.place role) = some .folder) : Failing before left
  | unstarted {invocation : Invocation} {disk : Disk}
      (isOne : invocation ∈ [compilation settings artifacts, comparison settings artifacts])
      (refused : invocation.Refused host disk left) : Failing before left
  | lost {compiled : Disk} {raw : Text} {output : ProcessOutput}
      (ran : (comparison settings artifacts).Ran host (shown settings home compiled raw) output
        left)
      (isNoFile : home.text? left .generated = none) : Failing before left

variable {host settings artifacts home} {mode : RunMode} {before left final : Disk}
  {failure : Failure} {source raw : Text} {output : ProcessOutput} {started : List Invocation}

theorem Logging.failing {outcome : Outcome}
    (logging : Logging home output outcome left (.error failure) final) :
    Failing host settings artifacts home before final := by
  cases logging with
  | unlogged isFolder => exact .blocked (by decide) isFolder

theorem Comparison.failing
    (comparing : Comparison host settings mode artifacts home source raw left (.error failure)
      final) :
    Failing host settings artifacts home before final := by
  cases comparing with
  | unstarted refused => exact .unstarted (by simp) refused
  | compared ran verdict =>
      cases verdict with
      | unrebuilt differed isUpdate isNoFile => exact .lost ran isNoFile
      | mismatched differed isNoUpdate logging => exact logging.failing

theorem Compilation.failing
    (compiling : Compilation host settings mode artifacts home source left (.error failure) final
      started) :
    Failing host settings artifacts home before final := by
  cases compiling with
  | blocked isFolder => exact .blocked (by decide) isFolder
  | unstarted isOpen refused => exact .unstarted (by simp) refused
  | compiled isOpen ran producing =>
      cases producing with
      | unsuccessful failed logging => exact logging.failing
      | missing succeeded isNoFile logging => exact logging.failing
      | produced succeeded isRaw comparing => exact comparing.failing

theorem Classification.failing
    (classified : Classification host settings mode artifacts home before (.error failure) left
      started) :
    Failing host settings artifacts home before left := by
  cases classified with
  | unsplit fails =>
      cases fails with
      | unreadable isNoFile => exact .unreadable isNoFile
      | sourceBlocked isText isPair isFolder => exact .blocked (by decide) isFolder
      | expectedBlocked isText isPair isOpen isFolder =>
          have isDerived : Role.expected ≠ .fixture := by decide
          exact .blocked isDerived (by simpa using isFolder)
  | divided isText isPair sourceOpen expectedOpen compiling => exact compiling.failing

theorem Course.failing
    (course : Course host settings mode artifacts home before (.error failure) final started) :
    Failing host settings artifacts home before final := by
  cases course with
  | stopped classified => exact classified.failing
  | @unpurged _ _ _ _ removed rest blocked classified purges isCut areOpen isFolder =>
      have isDerived : blocked ∈ Role.derived := by simp [isCut]
      have isKept : blocked ∉ removed := fun member => areOpen blocked member isFolder
      refine .blocked (Role.mem_derived.mp isDerived) ?_
      rw [Home.entryAt?_clear, if_neg isKept, isFolder]

end Failing

/-! ### Runs that return -/

section Returns

open FixtureRunner.Action

variable {host : Host} {settings : Settings} {path : Path} {home : Home} {workspace : Workspace}

/-- A fixture that is ready returns an outcome.  Nothing but its own files is touched, and folders
and links are as before. -/
theorem runFixture_returns (mode : RunMode)
    (starts : ∀ invocation ∈ [compilation settings (Artifacts.ofFixture path),
      comparison settings (Artifacts.ofFixture path)], invocation.Starts host)
    (writesFile : host.WritesFile (compilation settings (Artifacts.ofFixture path)).command
      (Artifacts.ofFixture path).generated)
    (writesNothing : host.WritesNothing (comparison settings (Artifacts.ofFixture path)).command)
    (readies : workspace.disk.Readies path home) :
    ∃ outcome left log,
      (runFixture host settings mode path).run workspace =
        (.ok outcome, { workspace with disk := left, log := log }) ∧
      workspace.disk.SameFrame left ∧
      home.Touches (.fixture :: Role.derived) workspace.disk left := by
  obtain ⟨content, executable, isFile⟩ := readies.isFile
  have confined : Confined host settings (Artifacts.ofFixture path) :=
    ⟨writesFile.writesOnly, writesNothing.writesOnly _⟩
  have noLinks : ∀ derived ∈ (Artifacts.ofFixture path).derived,
      workspace.disk.isLink derived = false := by
    intro derived member
    obtain ⟨role, _, rfl⟩ := Artifacts.mem_derived_iff.mp member
    exact readies.houses.isLink_eq_false role
  have isRead : workspace.disk.read path = .ok content :=
    (readies.houses.read_eq_ok_iff .fixture content).mpr ⟨executable, isFile⟩
  have altered := runFixture_ensures mode noLinks ⟨writesFile, writesNothing.writesFile _⟩ isRead
    workspace (.refl _)
  obtain ⟨result, left, started, course, ends⟩ := runFixture_ends mode confined readies.houses
  obtain ⟨log, ran, _⟩ := ends _ rfl
  rw [ran] at altered
  have same : workspace.disk.SameFrame left := altered.toSameFrame
  have touches := course.touches confined readies.houses
  cases result with
  | ok outcome => exact ⟨outcome, left, log, ran, same, touches⟩
  | error failure =>
      cases course.failing with
      | unreadable isNoFile => exact absurd isFile (Home.text?_eq_none_iff.mp isNoFile _ _)
      | @blocked role isDerived isFolder =>
          exact absurd ((same.frame _ .folder rfl).mp isFolder) (readies.areOpen role isDerived)
      | unstarted isOne refused => exact absurd refused (starts _ isOne).not_refused
      | lost ran isNoFile =>
          rw [ran.left_eq writesNothing, shown, Home.text?_store, if_pos rfl] at isNoFile
          cases isNoFile

end Returns

end Batch
end FixtureRunner
