/-
What a batch can have altered.

Whatever a batch does to a fixture, and wherever it stops, it leaves folders and links as
they are and touches the derived files of the fixture only; an update also gives the fixture
new contents.
-/

import FixtureRunner.Proofs.Batch.FailedRun
import FixtureRunner.Proofs.Batch.Passage
import FixtureRunner.Proofs.Batch.Steps
import FixtureRunner.Proofs.Disk.Alteration
import FixtureRunner.Proofs.Ensures

namespace FixtureRunner

open FixtureRunner.Action
open Artifacts (ofFixture)

/-- On every disk the command leaves folders and links as they are, and changes at most the file
that a path names. -/
def Host.WritesFile (host : Host) (command : Command) (path : Path) : Prop :=
  ∀ disk : Disk, disk.isLink path = false →
    disk.SameExcept [path] (host command disk).2 ∧ disk.SameFrame (host command disk).2

variable {host : Host} {command : Command}

theorem Host.WritesFile.writesOnly {path : Path} (writesFile : host.WritesFile command path) :
    host.WritesOnly command path := by
  intro disk isNoLink
  obtain ⟨elsewhere, same⟩ := writesFile disk isNoLink
  exact ⟨elsewhere, (same.isLink_eq path).trans isNoLink⟩

theorem Host.WritesNothing.writesFile (writesNothing : host.WritesNothing command) (path : Path) :
    host.WritesFile command path := by
  intro disk _
  rw [writesNothing disk]
  exact ⟨⟨rfl, fun _ _ => rfl⟩, .refl disk⟩

/-! ### One fixture -/

theorem Action.maintains_composes (Held : Disk → Prop) : Composes (Maintains Held) :=
  ⟨maintains_pure, Maintains.bind, maintains_disk, maintains_record, maintains_readBytes⟩

section Fixture

variable {artifacts : Artifacts} {refilled : List Path} {before : Disk}

theorem Artifacts.upkeep_alters
    (noLinks : ∀ path ∈ artifacts.derived, before.isLink path = false) :
    artifacts.Upkeep (Maintains (before.Alters artifacts.derived refilled)) := by
  refine ⟨maintains_composes _, fun path member content => ?_, fun path member => ?_⟩
  · exact maintains_writeBytes fun _ _ alters isWritten =>
      alters.step noLinks member fun isNoLink => Disk.revises_of_write isNoLink isWritten
  · exact maintains_removeIfPresent fun _ _ alters removes =>
      alters.step noLinks member removes.revises

theorem Artifacts.rebuild_ensures {held : Bytes}
    (wasRead : before.read artifacts.fixture = .ok held) :
    Ensures (before.Alters artifacts.derived []) artifacts.rebuild
      fun _ => before.Alters artifacts.derived [artifacts.fixture] := by
  have grows (disk : Disk) (alters : before.Alters artifacts.derived [] disk) :
      before.Alters artifacts.derived [artifacts.fixture] disk :=
    alters.mono (fun _ member => member) (by simp)
  refine (maintains_readText artifacts.source).bind_ensures (fun _ => grows) fun source => ?_
  refine (maintains_readText artifacts.generated).bind_ensures (fun _ => grows) fun generated => ?_
  have writes : Ensures (before.Alters artifacts.derived [])
      (writeText artifacts.fixture (Fixture.assemble source generated))
      fun _ => before.Alters artifacts.derived [artifacts.fixture] :=
    ensures_writeBytes (fun _ => grows) fun _ _ alters isWritten => alters.refill wasRead isWritten
  exact writes.bind (fun _ _ alters => alters) fun _ => maintains_record _

end Fixture

namespace Batch

/-- Both programs change nothing but the generated file. -/
structure WritesFiles (host : Host) (settings : Settings) (artifacts : Artifacts) : Prop where
  compiles : host.WritesFile (compilation settings artifacts).command artifacts.generated
  compares : host.WritesFile (comparison settings artifacts).command artifacts.generated

/-- Whether the run of a fixture may have given it new contents. -/
def refilled (mode : RunMode) (path : Path) : Except Failure Outcome → List Path
  | .ok outcome => if mode = .update ∧ outcome = .updated then [path] else []
  | .error _ => if mode = .update then [path] else []

theorem refilled_of_ne_update {mode : RunMode} (isNoUpdate : mode ≠ .update) (path : Path)
    (result : Except Failure Outcome) : refilled mode path result = [] := by
  cases result <;> simp [refilled, isNoUpdate]

section Run

variable {host : Host} {settings : Settings} {mode : RunMode} {artifacts : Artifacts}
  {before : Disk} {held : Bytes}
  (noLinks : ∀ path ∈ artifacts.derived, before.isLink path = false)
  (writesFiles : WritesFiles host settings artifacts)
  (wasRead : before.read artifacts.fixture = .ok held)

/-- The disk has been altered by a run of the fixture with some result so far. -/
def Altered (mode : RunMode) (artifacts : Artifacts) (before : Disk)
    (result : Except Failure Outcome) (after : Disk) : Prop :=
  before.Alters artifacts.derived (refilled mode artifacts.fixture result) after

theorem Altered.of_alters {result : Except Failure Outcome} {after : Disk}
    (alters : before.Alters artifacts.derived [] after) :
    Altered mode artifacts before result after :=
  alters.mono (fun _ member => member) (by simp)

theorem Altered.error {outcome : Outcome} {failure : Failure} {after : Disk}
    (altered : Altered mode artifacts before (.ok outcome) after) :
    Altered mode artifacts before (.error failure) after := by
  refine altered.mono (fun _ member => member) fun path member => ?_
  simp only [refilled] at member ⊢
  split at member
  · rename_i isUpdated
    rw [if_pos isUpdated.1]
    exact member
  · cases member

include noLinks

theorem logging_ensures (output : ProcessOutput) (outcome : Outcome) :
    Ensures (before.Alters artifacts.derived [])
      (do
        artifacts.writeErrorLog output
        return outcome : Action Outcome)
      (Altered mode artifacts before) :=
  ((Artifacts.upkeep_alters noLinks).writeErrorLog output).bind_ensures
    (fun _ _ => .of_alters) fun _ => ensures_pure outcome fun _ => .of_alters

include writesFiles wasRead

theorem compare_ensures :
    Ensures (before.Alters artifacts.derived []) (compare host settings mode artifacts)
      (Altered mode artifacts before) := by
  refine ((Artifacts.upkeep_alters noLinks).normalize settings.normalizer).bind_ensures
    (fun _ _ => .of_alters) fun _ => ?_
  have compares : Maintains (before.Alters artifacts.derived [])
      ((settings.diffInvocation artifacts.expected artifacts.generated).run host) :=
    maintains_run fun disk alters =>
      alters.step noLinks (by simp [Artifacts.derived]) (writesFiles.compares disk)
  refine compares.bind_ensures (fun _ _ => .of_alters) fun compared => ?_
  split
  · exact ensures_pure Outcome.ok fun _ => .of_alters
  · split
    · rename_i isUpdate
      have altered (result : Except Failure Outcome)
          (isRewritten : refilled mode artifacts.fixture result = [artifacts.fixture])
          (disk : Disk) (alters : before.Alters artifacts.derived [artifacts.fixture] disk) :
          Altered mode artifacts before result disk := by
        rw [Altered, isRewritten]
        exact alters
      refine (Artifacts.rebuild_ensures wasRead).bind
        (fun failure => altered _ (by simp [refilled, isUpdate])) fun _ => ?_
      exact ensures_pure Outcome.updated (altered _ (by simp [refilled, isUpdate]))
    · exact logging_ensures noLinks compared .diffMismatch

theorem compileAndCompare_ensures :
    Ensures (before.Alters artifacts.derived []) (compileAndCompare host settings mode artifacts)
      (Altered mode artifacts before) := by
  refine (Artifacts.upkeep_alters noLinks).discardGenerated.bind_ensures
    (fun _ _ => .of_alters) fun _ => ?_
  have compiles : Maintains (before.Alters artifacts.derived [])
      ((settings.compileInvocation artifacts.source).run host) :=
    maintains_run fun disk alters =>
      alters.step noLinks (by simp [Artifacts.derived]) (writesFiles.compiles disk)
  refine compiles.bind_ensures (fun _ _ => .of_alters) fun compiled => ?_
  split
  · exact logging_ensures noLinks compiled .compileError
  · refine maintains_disk.bind_ensures (fun _ _ => .of_alters) fun disk => ?_
    split
    · exact logging_ensures noLinks _ .compileError
    · exact compare_ensures noLinks writesFiles wasRead

theorem classify_ensures :
    Ensures (before.Alters artifacts.derived []) (classify host settings mode artifacts)
      (Altered mode artifacts before) := by
  refine (Artifacts.upkeep_alters noLinks).split.bind_ensures (fun _ _ => .of_alters)
    fun division => ?_
  cases division with
  | malformed sections => exact ensures_pure Outcome.malformed fun _ => .of_alters
  | written => exact compileAndCompare_ensures noLinks writesFiles wasRead

end Run

section Fixtures

variable {host : Host} {settings : Settings} {mode : RunMode} {path : Path} {before after : Disk}

theorem runFixture_ensures (mode : RunMode) {held : Bytes}
    (noLinks : ∀ derived ∈ (ofFixture path).derived, before.isLink derived = false)
    (writesFiles : WritesFiles host settings (ofFixture path))
    (wasRead : before.read path = .ok held) :
    Ensures (before.Alters (ofFixture path).derived [])
      (runFixture host settings mode path)
      (Altered mode (ofFixture path) before) := by
  refine (classify_ensures noLinks writesFiles wasRead).bind (fun _ _ altered => altered)
    fun outcome => ?_
  refine (maintains_record _).bind_ensures (fun _ _ => .error) fun _ => ?_
  split
  · refine (Artifacts.upkeep_alters noLinks).purge.bind_ensures (fun _ _ => .error) fun _ => ?_
    exact ensures_pure outcome fun _ altered => altered
  · exact ensures_pure outcome fun _ altered => altered

/-- A fixture that cannot be read fails and changes nothing; any other is altered at most. -/
theorem Runs.alters {result : Except Failure Outcome}
    (noLinks : ∀ derived ∈ (ofFixture path).derived, before.isLink derived = false)
    (writesFiles : WritesFiles host settings (ofFixture path))
    (runs : Runs host settings mode path before result after) :
    ((∃ failure, result = .error failure) ∧ after = before) ∨
      (∃ folder name, before.Leads path folder name) ∧
        Altered mode (ofFixture path) before result after := by
  obtain ⟨first, last, rfl, rfl, ran⟩ := runs
  cases isRead : first.disk.read path with
  | error cause =>
      rw [runFixture_unreadable host settings mode isRead] at ran
      obtain ⟨rfl, rfl⟩ := Prod.mk.inj ran
      exact Or.inl ⟨⟨_, rfl⟩, rfl⟩
  | ok held =>
      have altered := runFixture_ensures mode noLinks writesFiles isRead first (.refl _)
      rw [ran] at altered
      exact Or.inr ⟨Disk.leads_of_read isRead, altered⟩

end Fixtures

/-! ### All fixtures -/

def derivedPaths (fixtures : List Path) : List Path :=
  fixtures.flatMap fun path => (ofFixture path).derived

theorem derivedPaths_append (first second : List Path) :
    derivedPaths (first ++ second) = derivedPaths first ++ derivedPaths second :=
  List.flatMap_append

theorem mem_derivedPaths_of_mem {fixtures : List Path} {path derived : Path}
    (member : path ∈ fixtures) (isDerived : derived ∈ (ofFixture path).derived) :
    derived ∈ derivedPaths fixtures :=
  List.mem_flatMap.mpr ⟨path, member, isDerived⟩

/-- The fixtures that were run and reported as updated. -/
def updatedIn (mode : RunMode) (done : List (Path × Outcome)) : List Path :=
  done.flatMap fun (path, outcome) => refilled mode path (.ok outcome)

theorem updatedIn_of_ne_update {mode : RunMode} (isNoUpdate : mode ≠ .update)
    (done : List (Path × Outcome)) : updatedIn mode done = [] := by
  simp [updatedIn, refilled_of_ne_update isNoUpdate]

section Batches

variable {host : Host} {settings : Settings} {mode : RunMode} {fixtures : List Path}
  {before after : Disk}

theorem Passage.alters {done : List (Path × Outcome)}
    (noLinks : ∀ path ∈ derivedPaths (done.map Prod.fst), before.isLink path = false)
    (writesFiles : ∀ path ∈ done.map Prod.fst, WritesFiles host settings (ofFixture path))
    (passage : Passage host settings mode before done after) :
    before.Alters (derivedPaths (done.map Prod.fst)) (updatedIn mode done) after ∧
      ∀ path ∈ done.map Prod.fst, ∃ folder name, before.Leads path folder name := by
  induction passage with
  | start disk => exact ⟨.refl disk, by simp⟩
  | @run path outcome before between after later runs _ ih =>
      have laterNamed (derived : Path) (member : derived ∈ derivedPaths (later.map Prod.fst)) :
          derived ∈ derivedPaths (((path, outcome) :: later).map Prod.fst) :=
        List.mem_append_right _ member
      have pathNamed (derived : Path) (member : derived ∈ (ofFixture path).derived) :
          derived ∈ derivedPaths (((path, outcome) :: later).map Prod.fst) :=
        mem_derivedPaths_of_mem (by simp) member
      rcases runs.alters (fun derived member => noLinks derived (pathNamed derived member))
        (writesFiles path (by simp)) with ⟨⟨failure, isFailure⟩, _⟩ | ⟨leads, altered⟩
      · cases isFailure
      · have same := altered.toSameFrame
        obtain ⟨alters, laterLeads⟩ := ih
          (fun derived member => by
            rw [same.isLink_eq]
            exact noLinks derived (laterNamed derived member))
          (fun other member => writesFiles other (List.mem_cons_of_mem _ member))
        refine ⟨(altered.mono pathNamed ?_).trans (alters.mono laterNamed ?_), ?_⟩
        · exact fun other member => List.mem_append_left _ member
        · exact fun other member => List.mem_append_right _ member
        · intro other member
          rcases List.mem_cons.mp member with rfl | isLater
          · exact leads
          · obtain ⟨folder, name, otherLeads⟩ := laterLeads other isLater
            exact ⟨folder, name, otherLeads.mono same.symm.keepsRoutes⟩

/-- Wherever a batch without updates stops, the fixtures it has tried could be read, and nothing
but their derived files was altered. -/
theorem Ending.alters {done : List (Path × Outcome)} {unreached : List Path} {complete : Report}
    {reached : Disk} {result : Except Failure Report} (isNoUpdate : mode ≠ .update)
    (noLinks : ∀ path ∈ derivedPaths (done.map Prod.fst ++ unreached), before.isLink path = false)
    (writesFiles : ∀ path ∈ done.map Prod.fst ++ unreached,
      WritesFiles host settings (ofFixture path))
    (passage : Passage host settings mode before done reached)
    (ending : Ending host settings mode complete reached unreached result after) :
    ∃ tried rest, done.map Prod.fst ++ unreached = tried ++ rest ∧
      before.Alters (derivedPaths tried) [] after ∧
      ∀ path ∈ tried, ∃ folder name, before.Leads path folder name := by
  obtain ⟨alters, leads⟩ := passage.alters
    (fun path member => noLinks path (by simp [derivedPaths_append, member]))
    (fun path member => writesFiles path (List.mem_append_left _ member))
  rw [updatedIn_of_ne_update isNoUpdate] at alters
  cases ending with
  | finished isEnd => exact ⟨_, _, rfl, alters, leads⟩
  | refused => exact ⟨_, _, rfl, alters, leads⟩
  | @failed path later failure left isNext fails =>
      subst isNext
      have pathNamed (derived : Path) (member : derived ∈ (ofFixture path).derived) :
          derived ∈ derivedPaths (done.map Prod.fst ++ [path]) :=
        mem_derivedPaths_of_mem (by simp) member
      rcases fails.alters (fun derived member => by
          rw [alters.isLink_eq]
          exact noLinks derived (mem_derivedPaths_of_mem (by simp) member))
        (writesFiles path (by simp)) with ⟨_, rfl⟩ | ⟨⟨folder, name, pathLeads⟩, altered⟩
      · exact ⟨_, _, rfl, alters, leads⟩
      · rw [Altered, refilled_of_ne_update isNoUpdate] at altered
        refine ⟨done.map Prod.fst ++ [path], later, by simp, ?_, ?_⟩
        · exact (alters.mono (by simp +contextual [derivedPaths_append]) (by simp)).trans
            (altered.mono pathNamed (by simp))
        · intro other member
          rcases List.mem_append.mp member with isDone | isPath
          · exact leads other isDone
          · rw [List.mem_singleton.mp isPath]
            exact ⟨folder, name, pathLeads.mono alters.toSameFrame.symm.keepsRoutes⟩

end Batches

end Batch
end FixtureRunner
