/-
Fixtures are found again after any number of batches.

All that a batch does to the places of files it does at the paths of derived files, and those
have no names of fixtures.  So a search finds after a sequence of batches what it found before,
however they were selected, whatever their modes and wherever they stopped.
-/

import FixtureRunner.Proofs.Batch.Independence
import FixtureRunner.Proofs.Discovery.Stability

namespace FixtureRunner

open FixtureRunner.Action
open Artifacts (ofFixture)

/-- The command leaves folders and links as they are, and files where they are, but for files at
some paths, none of them a link. -/
def Host.MakesFilesAt (host : Host) (command : Command) (paths : List Path) : Prop :=
  ∀ disk : Disk, (∀ path ∈ paths, disk.isLink path = false) →
    disk.SameFiles paths (host command disk).2

variable {path root : Path}

theorem Host.WritesFile.makesFilesAt {host : Host} {command : Command} {paths : List Path}
    (writesFile : host.WritesFile command path) (member : path ∈ paths) :
    host.MakesFilesAt command paths := fun disk noLinks =>
  (Disk.SameFiles.refl disk).step noLinks member (writesFile disk)

namespace Batch

/-! ### What a run keeps -/

section Steps

variable {Held : Disk → Prop} {host : Host} {settings : Settings}

theorem runEach_maintains {fixtures : List (Path × String)}
    (requests : ∀ fixture ∈ fixtures,
      Requests (Maintains Held) host settings (ofFixture fixture.1))
    (mode : RunMode) (width : Nat) (report : Report) :
    Maintains Held (runEach host settings mode width fixtures report) := by
  induction fixtures generalizing report with
  | nil => exact maintains_pure report
  | cons fixture rest ih =>
      have runs : Maintains Held (runFixture host settings mode fixture.1) :=
        (requests fixture (by simp)).runFixture mode
      refine runs.bind fun outcome => ?_
      refine (maintains_emit _).bind fun _ => ?_
      exact ih (fun other member => requests other (List.mem_cons_of_mem _ member)) _

theorem runBatch_maintains {fixtures : List Path}
    (requests : ∀ path ∈ fixtures, Requests (Maintains Held) host settings (ofFixture path))
    (root : Path) (mode : RunMode) :
    Maintains Held (runBatch host root fixtures settings mode) := by
  refine (maintains_record _).bind fun _ => ?_
  split
  · have purges : Maintains Held (fixtures.forM fun path => (ofFixture path).purge) :=
      (maintains_composes Held).forM fun path member => (requests path member).purge
    refine purges.bind fun _ => ?_
    exact (maintains_emit _).bind fun _ => maintains_pure _
  · split
    · exact maintains_pure _
    · have requestsNamed (fixture : Path × String)
          (member : fixture ∈ fixtures.zip (fixtures.map (Discovery.relativeName root))) :
          Requests (Maintains Held) host settings (ofFixture fixture.1) :=
        requests fixture.1 (List.of_mem_zip member).1
      refine (runEach_maintains requestsNamed mode _ _).bind fun report => ?_
      refine (maintains_emit _).bind fun _ => ?_
      exact (maintains_record _).bind fun _ => maintains_pure report

end Steps

end Batch

theorem Discovery.discover_maintains {Held : Disk → Prop} (root : Path) (fragments : List String) :
    Maintains Held (discover root fragments) := by
  have finds : Maintains Held (findFixtures root) := by
    refine maintains_disk.bind fun disk => ?_
    split
    · exact maintains_pure _
    · exact maintains_throw _
  refine finds.bind fun candidates => ?_
  exact Maintains.bind ((maintains_composes Held).forM fun _ _ => maintains_record _)
    fun _ => maintains_pure _

/-- The fixtures that a search finds; none if it fails. -/
def Discovery.foundBelow (root : Path) (workspace : Workspace) : List Path :=
  match ((findFixtures root).run workspace).1 with
  | .ok found => found
  | .error _ => []

theorem Discovery.mem_foundBelow {workspace : Workspace} :
    path ∈ foundBelow root workspace ↔
      ∃ found, ((findFixtures root).run workspace).1 = .ok found ∧ path ∈ found := by
  unfold foundBelow
  cases ((findFixtures root).run workspace).1 with
  | ok found => simp
  | error failure => simp

theorem Discovery.finds_of_foundBelow {workspace : Workspace}
    (member : path ∈ foundBelow root workspace) :
    ∃ folder names, Finds workspace.disk root path folder names := by
  obtain ⟨found, isFound, isIn⟩ := mem_foundBelow.mp member
  exact finds_of_findFixtures isFound isIn

namespace Batch

/-! ### Turns -/

/-- One batch of a sequence: what it is run with, what selects its fixtures, and where it
writes. -/
structure Turn where
  host : Host
  settings : Settings
  mode : RunMode
  fragments : List String
  console : Console

def Turn.action (root : Path) (turn : Turn) : Action Report := do
  let fixtures ← Discovery.discover root turn.fragments
  runBatch turn.host root fixtures turn.settings turn.mode

/-- The batches follow one another, also where one has failed. -/
def afterTurns (root : Path) (turns : List Turn) (workspace : Workspace) : Workspace :=
  turns.foldl (fun held turn =>
    ((turn.action root).run { held with console := turn.console }).2) workspace

def generatedPaths (fixtures : List Path) : List Path :=
  fixtures.map fun path => (ofFixture path).generated

/-- The programs of a turn make files at most where those of some fixtures are generated. -/
structure Turn.MakesGenerated (turn : Turn) (fixtures : List Path) : Prop where
  compiles : ∀ path ∈ fixtures, turn.host.MakesFilesAt
    (compilation turn.settings (ofFixture path)).command (generatedPaths fixtures)
  compares : ∀ path ∈ fixtures, turn.host.MakesFilesAt
    (comparison turn.settings (ofFixture path)).command (generatedPaths fixtures)

theorem mem_derivedPaths_of_generated {fixtures : List Path} {path : Path}
    (member : path ∈ generatedPaths fixtures) : path ∈ derivedPaths fixtures := by
  obtain ⟨fixture, isFixture, rfl⟩ := List.mem_map.mp member
  exact mem_derivedPaths_of_mem isFixture (by simp [Artifacts.derived])

end Batch

theorem Discovery.Finds.rewrite {named : List Path} {before disk after : Disk} {folder : Location}
    {names : List String} {content : Bytes} (isSound : before.IsSound)
    (finds : Finds before root path folder names) (same : before.SameFiles named disk)
    (isWritten : disk.write path content = .ok after) : before.SameFiles named after := by
  obtain ⟨parent, inner, last, rfl, _, enters, isProper, isFile⟩ := finds.file isSound
  obtain ⟨_, _, leads⟩ := Disk.leads_of_write isWritten
  exact same.rewrite (enters.leads isProper leads.pathFits) isFile isWritten

namespace Batch

section Sequences

open Discovery (foundBelow)

variable {root : Path} {before : Workspace} (isSound : before.disk.IsSound)
  (noLinks : ∀ path ∈ derivedPaths (foundBelow root before), before.disk.isLink path = false)

include noLinks

theorem programs_maintain {host : Host} {invocation : Invocation}
    (makes : host.MakesFilesAt invocation.command (generatedPaths (foundBelow root before))) :
    Maintains (before.disk.SameFiles (derivedPaths (foundBelow root before)))
      (invocation.run host) := by
  refine maintains_run fun disk same => ?_
  have made := makes disk fun path member =>
    same.isLink_eq_false noLinks (mem_derivedPaths_of_generated member)
  exact same.trans (made.mono fun path => mem_derivedPaths_of_generated)

include isSound

theorem Turn.requests {turn : Turn} (makes : turn.MakesGenerated (foundBelow root before))
    {path : Path} (member : path ∈ foundBelow root before) :
    Requests (Maintains (before.disk.SameFiles (derivedPaths (foundBelow root before))))
      turn.host turn.settings (ofFixture path) := by
  obtain ⟨_, _, finds⟩ := Discovery.finds_of_foundBelow member
  refine ⟨⟨maintains_composes _, fun derived isDerived content => ?_, fun derived isDerived => ?_⟩,
    fun content => ?_, programs_maintain noLinks (makes.compiles path member),
    programs_maintain noLinks (makes.compares path member)⟩
  · exact maintains_writeBytes fun _ _ same isWritten =>
      same.step noLinks (mem_derivedPaths_of_mem member isDerived) fun isNoLink =>
        Disk.revises_of_write isNoLink isWritten
  · exact maintains_removeIfPresent fun _ _ same removes =>
      same.step noLinks (mem_derivedPaths_of_mem member isDerived) removes.revises
  · exact maintains_writeBytes fun _ _ same isWritten => finds.rewrite isSound same isWritten

omit noLinks

theorem findFixtures_of_sameFiles {current : Workspace}
    (same : before.disk.SameFiles (derivedPaths (foundBelow root before)) current.disk) :
    ((Discovery.findFixtures root).run current).1 = ((Discovery.findFixtures root).run before).1 := by
  refine Discovery.findFixtures_eq same (fun derived member folder name isPlace => ?_) root
  obtain ⟨path, isMember, isDerived⟩ := List.mem_flatMap.mp member
  obtain ⟨role, isDerivedRole, rfl⟩ := Artifacts.mem_derived_iff.mp isDerived
  obtain ⟨_, _, finds⟩ := Discovery.finds_of_foundBelow isMember
  obtain ⟨front, stem, shape⟩ := finds.shape isSound
  exact shape.namesNoFixture isDerivedRole isPlace

include noLinks

/-- One turn keeps the places of files, also if it fails: what it selects was found before. -/
theorem Turn.action_maintains {turn : Turn}
    (makes : turn.MakesGenerated (foundBelow root before)) :
    Maintains (before.disk.SameFiles (derivedPaths (foundBelow root before)))
      (turn.action root) := by
  intro workspace same
  have sameAfter := Discovery.discover_maintains root turn.fragments workspace same
  rw [Turn.action, run_bind]
  cases ran : (Discovery.discover root turn.fragments).run workspace with
  | mk result searched =>
      rw [ran] at sameAfter
      cases result with
      | error failure => exact sameAfter
      | ok fixtures =>
          obtain ⟨candidates, isFound, areCandidates⟩ :=
            Discovery.candidates_of_discover (congrArg Prod.fst ran)
          rw [findFixtures_of_sameFiles isSound same] at isFound
          refine runBatch_maintains (fun path member => ?_) root turn.mode searched sameAfter
          exact Turn.requests isSound noLinks makes
            (Discovery.mem_foundBelow.mpr ⟨candidates, isFound, areCandidates path member⟩)

theorem afterTurns_sameFiles {turns : List Turn}
    (make : ∀ turn ∈ turns, turn.MakesGenerated (foundBelow root before))
    {current : Workspace}
    (same : before.disk.SameFiles (derivedPaths (foundBelow root before)) current.disk) :
    before.disk.SameFiles (derivedPaths (foundBelow root before))
      (afterTurns root turns current).disk := by
  induction turns generalizing current with
  | nil => exact same
  | cons turn rest ih =>
      refine ih (fun later member => make later (List.mem_cons_of_mem _ member)) ?_
      exact Turn.action_maintains isSound noLinks (make turn (by simp))
        { current with console := turn.console } same

/-- A search finds after any batches the list that it found before them.  Nothing in it is a
derived file, by its path or by its place. -/
theorem findFixtures_after_turns {turns : List Turn}
    (make : ∀ turn ∈ turns, turn.MakesGenerated (foundBelow root before)) :
    ((Discovery.findFixtures root).run (afterTurns root turns before)).1 =
        ((Discovery.findFixtures root).run before).1 ∧
      ∀ path ∈ foundBelow root (afterTurns root turns before),
        ∀ derived ∈ derivedPaths (foundBelow root before),
          path ≠ derived ∧
            ∀ place, (afterTurns root turns before).disk.placeOf? derived = some place →
              (afterTurns root turns before).disk.placeOf? path ≠ some place := by
  have same := afterTurns_sameFiles isSound noLinks make (.refl before.disk)
  have again := findFixtures_of_sameFiles isSound same
  refine ⟨again, fun path member derived isDerived => ?_⟩
  rw [foundBelow, again] at member
  obtain ⟨_, _, finds⟩ := Discovery.finds_of_foundBelow member
  obtain ⟨other, isOther, isDerivedOf⟩ := List.mem_flatMap.mp isDerived
  obtain ⟨_, _, findsOther⟩ := Discovery.finds_of_foundBelow isOther
  rw [same.placeOf?_eq, same.placeOf?_eq]
  exact finds.ne_derived isSound findsOther isDerivedOf

end Sequences

theorem WritesFiles.makesGenerated {turn : Turn} {fixtures : List Path}
    (writesFiles : ∀ path ∈ fixtures,
      WritesFiles turn.host turn.settings (ofFixture path)) :
    turn.MakesGenerated fixtures := by
  have named (path : Path) (member : path ∈ fixtures) :
      (ofFixture path).generated ∈ generatedPaths fixtures :=
    List.mem_map_of_mem member
  exact ⟨fun path member => (writesFiles path member).compiles.makesFilesAt (named path member),
    fun path member => (writesFiles path member).compares.makesFilesAt (named path member)⟩

def sampleTurn (mode : RunMode) (fragments : List String) (console : Console) : Turn :=
  { host := siblingHost id, settings := sampleSettings, mode, fragments, console }

def nestedTurns : List Turn :=
  [sampleTurn .update [] { lineLimit := some 1 }, sampleTurn .dump ["b"] {},
    sampleTurn .clean ["d", "a"] {}, sampleTurn .cleanOnly [] {}]

theorem nestedDisk_found :
    ((Discovery.findFixtures ⟨"."⟩).run { disk := nestedDisk }).1 = .ok nestedFixtures := by
  have isRoot : { disk := nestedDisk : Workspace }.disk.find ⟨"."⟩ = .ok (["work"], .folder) := by
    decide
  have areFound : ((Discovery.filesBelow nestedDisk nestedDisk.depth ["work"]).map
      (Discovery.extend ⟨"."⟩)).filter Path.isFixture = nestedFixtures := by
    decide
  have areSorted : nestedFixtures.Pairwise fun left right => left.le right = true := by
    decide
  rw [Discovery.run_findFixtures isRoot, Discovery.fixturesBelow, areFound, Discovery.sorted,
    List.mergeSort_of_pairwise areSorted]

theorem findFixtures_after_turns_nested :
    ((Discovery.findFixtures ⟨"."⟩).run
      (afterTurns ⟨"."⟩ nestedTurns { disk := nestedDisk })).1 = .ok nestedFixtures := by
  have isFound : Discovery.foundBelow ⟨"."⟩ { disk := nestedDisk } = nestedFixtures := by
    rw [Discovery.foundBelow, nestedDisk_found]
  have noLinks : ∀ path ∈ derivedPaths (Discovery.foundBelow ⟨"."⟩ { disk := nestedDisk }),
      { disk := nestedDisk : Workspace }.disk.isLink path = false := by
    rw [isFound]
    decide +kernel
  have areBeside : ∀ path ∈ nestedFixtures, (Artifacts.ofFixture path).source.withExtension "ll" =
      (Artifacts.ofFixture path).generated := by
    decide +kernel
  have writesFiles (path : Path) (member : path ∈ nestedFixtures) :
      WritesFiles (siblingHost id) sampleSettings (Artifacts.ofFixture path) :=
    siblingHost_writesFiles id (areBeside path member)
  have make : ∀ turn ∈ nestedTurns,
      turn.MakesGenerated (Discovery.foundBelow ⟨"."⟩ { disk := nestedDisk }) := by
    rw [isFound]
    intro turn member
    simp only [nestedTurns, List.mem_cons, List.not_mem_nil, or_false] at member
    rcases member with rfl | rfl | rfl | rfl
    all_goals exact WritesFiles.makesGenerated writesFiles
  rw [(findFixtures_after_turns nestedDisk_isSound noLinks make).1]
  exact nestedDisk_found

end Batch

end FixtureRunner
