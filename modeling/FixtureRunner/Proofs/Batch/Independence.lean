/-
Fixtures of a batch do not interfere.

The files of different fixtures are at different places, and what the programs do for a
fixture depends on its own files only.  So every fixture of a batch ends as if it was the
only one, and the disk that a batch leaves is put together from what the fixtures leave
when each is run alone.
-/

import FixtureRunner.Proofs.Batch.Cleaning
import FixtureRunner.Proofs.Batch.Completion
import FixtureRunner.Proofs.Batch.TwoRuns
import FixtureRunner.Proofs.Discovery.Places

namespace FixtureRunner

open FixtureRunner.Action
open Artifacts (ofFixture)

/-! ### Homes -/

namespace Home

def layout (home : Home) : Layout :=
  ⟨home, home.place .fixture⟩

@[simp] theorem layout_place (home : Home) (role : Role) :
    home.layout.place role = home.place role := by
  unfold layout Layout.place
  split
  · rename_i isFixture
    rw [isFixture]
  · rfl

/-- The location is one of the places of the home. -/
def Holds (home : Home) (location : Location) : Prop :=
  ∃ role, location = home.place role

end Home

namespace Layout.Fits

variable {layout : Layout} {artifacts : Artifacts} {disk after : Disk}

theorem of_sameFrame (fits : layout.Fits artifacts disk) (same : disk.SameFrame after) :
    layout.Fits artifacts after :=
  fits.mono fun _ _ _ => same.route_eq_ok_iff.mpr

theorem leads (fits : layout.Fits artifacts disk) (role : Role) (isDerived : role ≠ .fixture) :
    ∃ folder name, layout.place role = folder ++ [name] ∧
      disk.Leads (artifacts.path role) folder name := by
  obtain ⟨_, _, _, routed⟩ := fits role .edit fun isFixture _ => isDerived isFixture
  obtain ⟨folder, name, leads⟩ := Disk.leads_of_route routed
  have isPlace := fits.placeOf? role isDerived
  rw [leads.placeOf?] at isPlace
  exact ⟨folder, name, (Option.some.inj isPlace).symm, leads⟩

end Layout.Fits

theorem Disk.Houses.of_sameFrame {before after : Disk} {artifacts : Artifacts} {home : Home}
    (houses : before.Houses artifacts home) (same : before.SameFrame after) :
    after.Houses artifacts home where
  leads role := (houses.leads role).mono same.keepsRoutes
  isNoLink role target isLink :=
    houses.isNoLink role target ((same.frame _ (.link target) rfl).mp isLink)

namespace Disk.Readies

variable {before after : Disk} {path : Path} {home : Home}

theorem of_sameFrame (readies : before.Readies path home) (same : before.SameFrame after)
    (isSame : after.entryAt? (home.place .fixture) = before.entryAt? (home.place .fixture)) :
    after.Readies path home where
  houses := readies.houses.of_sameFrame same
  isFile := by
    rw [isSame]
    exact readies.isFile
  areOpen role isDerived isFolder :=
    readies.areOpen role isDerived ((same.frame _ .folder rfl).mp isFolder)

theorem fits (readies : before.Readies path home) :
    home.layout.Fits (ofFixture path) before :=
  Layout.fits_of_leads readies.houses.leads (fun role _ => readies.houses.isNoLink role)
    fun purpose _ => (readies.houses.leads .fixture).route_of_no_link purpose
      (readies.houses.isNoLink .fixture)

theorem agree (readies : before.Readies path home) (same : before.SameFrame after)
    (isSame : ∀ role, after.entryAt? (home.place role) = before.entryAt? (home.place role)) :
    Agree (ofFixture path) home.layout home.Holds [] [] before after where
  fitsFirst := readies.fits
  fitsSecond := readies.fits.of_sameFrame same
  here := same.here
  same := by
    rintro _ ⟨role, rfl⟩ _
    exact isSame role
  areOpen := by simp
  flags := by simp
  areFiles := by simp

end Disk.Readies

namespace Batch

/-! ### Programs that depend on their files -/

/-- Both programs can be started.  What the compiler returns and generates depends on the path
and the contents of its source, and it writes nothing else; what the comparison returns depends
on the paths and the contents of its two files, and it writes nothing. -/
structure Functional (host : Host) (settings : Settings)
    (translate : Path → Bytes → Performance × Option Entry)
    (judge : Path → Path → Bytes → Bytes → Performance) (artifacts : Artifacts) : Prop where
  starts : ∀ invocation ∈ [compilation settings artifacts, comparison settings artifacts],
    invocation.Starts host
  writesFile : host.WritesFile (compilation settings artifacts).command artifacts.generated
  writesNothing : host.WritesNothing (comparison settings artifacts).command
  compiles : ∀ disk content folder name, disk.read artifacts.source = .ok content →
    disk.Leads artifacts.generated folder name → disk.entryAt? (folder ++ [name]) = none →
      (host (compilation settings artifacts).command disk).1 =
          .ok (translate artifacts.source content).1 ∧
        (host (compilation settings artifacts).command disk).2.entryAt? (folder ++ [name]) =
          (translate artifacts.source content).2
  compares : ∀ disk first second, disk.read artifacts.expected = .ok first →
    disk.read artifacts.generated = .ok second →
      (host (comparison settings artifacts).command disk).1 =
        .ok (judge artifacts.expected artifacts.generated first second)

section Functional

variable {host : Host} {settings : Settings}
  {translate : Path → Bytes → Performance × Option Entry}
  {judge : Path → Path → Bytes → Bytes → Performance} {artifacts : Artifacts} {home : Home}

theorem read_of_agree {files : List Role} {first second : Disk}
    (agree : Agree artifacts home.layout home.Holds files [] first second) (role : Role)
    (member : role ∈ files) :
    ∃ content, first.read (artifacts.path role) = .ok content ∧
      second.read (artifacts.path role) = .ok content := by
  obtain ⟨content, executable, isFile⟩ := agree.areFiles role member
  have isRead : first.read (artifacts.path role) = .ok content := by
    rw [(agree.fitsFirst.look role).read_eq, isFile]
  refine ⟨content, isRead, ?_⟩
  rw [agree.read ⟨role, home.layout_place role⟩ nofun, isRead]

theorem Functional.compiled {disk : Disk} {content : Bytes}
    (functional : Functional host settings translate judge artifacts)
    (fits : home.layout.Fits artifacts disk) (isRead : disk.read artifacts.source = .ok content)
    (isAbsent : disk.entryAt? (home.layout.place .generated) = none) :
    (host (compilation settings artifacts).command disk).1 =
        .ok (translate artifacts.source content).1 ∧
      disk.SameFrame (host (compilation settings artifacts).command disk).2 ∧
      (host (compilation settings artifacts).command disk).2.entryAt?
        (home.layout.place .generated) = (translate artifacts.source content).2 ∧
      ∀ location, location ≠ home.layout.place .generated →
        (host (compilation settings artifacts).command disk).2.entryAt? location =
          disk.entryAt? location := by
  obtain ⟨folder, name, isPlace, leads⟩ := fits.leads .generated (by decide)
  have isNoLink : disk.isLink (artifacts.path .generated) = false :=
    fits.isLink_eq_false (by decide)
  have isPlaceOf : disk.placeOf? artifacts.generated = some (folder ++ [name]) := leads.placeOf?
  obtain ⟨elsewhere, same⟩ := functional.writesFile disk isNoLink
  rw [isPlace] at isAbsent ⊢
  obtain ⟨result, generated⟩ := functional.compiles disk content folder name isRead leads isAbsent
  refine ⟨result, same, generated, fun location isOther => elsewhere.elsewhere location ?_⟩
  intro path member
  rw [List.mem_singleton.mp member, isPlaceOf]
  exact fun isLocation => isOther (Option.some.inj isLocation).symm

theorem Functional.actAlike (functional : Functional host settings translate judge artifacts) :
    ActAlike host settings artifacts home.layout home.Holds [.expected, .source] [] := by
  constructor
  · intro first second agree isAbsent
    have isAbsentToo : second.entryAt? (home.layout.place .generated) = none :=
      (agree.same _ ⟨.generated, home.layout_place _⟩ nofun).trans isAbsent
    obtain ⟨content, firstRead, secondRead⟩ := read_of_agree agree .source (by simp)
    obtain ⟨firstResult, firstFrame, firstEntry, firstElsewhere⟩ :=
      functional.compiled agree.fitsFirst firstRead isAbsent
    obtain ⟨secondResult, secondFrame, secondEntry, secondElsewhere⟩ :=
      functional.compiled agree.fitsSecond secondRead isAbsentToo
    refine ⟨secondResult.trans firstResult.symm,
      agree.replace (agree.fitsFirst.of_sameFrame firstFrame)
        (agree.fitsSecond.of_sameFrame secondFrame) ?_ firstElsewhere secondElsewhere ?_ ?_ ?_⟩
    · rw [secondFrame.here, agree.here, firstFrame.here]
    · rw [firstEntry, secondEntry]
    · intro isFolder
      rw [(firstFrame.frame _ .folder rfl).mp isFolder] at isAbsent
      cases isAbsent
    · intro other member
      have isOther : home.layout.place other ≠ home.layout.place .generated := by
        rw [Home.layout_place, Home.layout_place]
        intro same
        rw [home.place_inj.mp same] at member
        simp at member
      rw [firstElsewhere _ isOther]
      exact agree.areFiles other member
  · intro first second agree
    obtain ⟨expected, firstExpected, secondExpected⟩ := read_of_agree agree .expected (by simp)
    obtain ⟨generated, firstGenerated, secondGenerated⟩ :=
      read_of_agree agree .generated (by simp)
    have firstResult := functional.compares first _ _ firstExpected firstGenerated
    have secondResult := functional.compares second _ _ secondExpected secondGenerated
    refine ⟨secondResult.trans firstResult.symm, ?_⟩
    rw [functional.writesNothing first, functional.writesNothing second]
    exact agree.mono (by simp) fun _ => Iff.rfl

/-- Where the files of a fixture are the same, a run of it has the same outcome and leaves the
same files.  It leaves everything else alone. -/
theorem Functional.run_again {mode : RunMode} {path : Path} {before lone : Disk} {outcome : Outcome}
    {workspace : Workspace}
    (functional : Functional host settings translate judge (ofFixture path))
    (readies : before.Readies path home)
    (runs : Runs host settings mode path before (.ok outcome) lone)
    (same : before.SameFrame workspace.disk)
    (isSame : ∀ role,
      workspace.disk.entryAt? (home.place role) = before.entryAt? (home.place role)) :
    ∃ left log,
      (runFixture host settings mode path).run workspace =
        (.ok outcome, { workspace with disk := left, log := log }) ∧
      workspace.disk.SameFrame left ∧
      home.Touches (.fixture :: Role.derived) workspace.disk left ∧
      ∀ role, left.entryAt? (home.place role) = lone.entryAt? (home.place role) := by
  obtain ⟨first, last, rfl, rfl, ranAlone⟩ := runs
  obtain ⟨returned, left, log, ran, frame, touches⟩ := runFixture_returns mode functional.starts
    functional.writesFile functional.writesNothing (readies.of_sameFrame same (isSame .fixture))
  have agree := readies.agree same isSame
  have holds (role : Role) : home.Holds (home.layout.place role) := ⟨role, home.layout_place role⟩
  have reads := agree.read (holds .fixture) nofun
  obtain ⟨sameResult, sameAfter⟩ := runFixture_alike mode holds (by simp) functional.actAlike
    (by simp) (by simp) rfl first workspace ⟨agree, reads⟩
  rw [ran, ranAlone] at sameResult sameAfter
  obtain rfl := Except.ok.inj sameResult
  obtain ⟨_, agreeAfter⟩ := sameAfter _ rfl
  -- The disks agreed on every file at home, so none is left that differs, whatever the outcome.
  have nothingStale : (if mode.purges && !returned.isFailure then []
      else remaining [] [] returned) = [] := by
    cases returned <;> simp [remaining]
  rw [nothingStale] at agreeAfter
  exact ⟨left, log, ran, frame, touches, fun role => agreeAfter.same _ ⟨role, rfl⟩ nofun⟩

end Functional

/-! ### What a batch leaves -/

/-- Fixtures that are ready, each at a home of its own. -/
structure Apart (homes : Path → Home) (fixtures : List Path) (before : Disk) : Prop where
  readies : ∀ path ∈ fixtures, before.Readies path (homes path)
  eq_of_home : ∀ first ∈ fixtures, ∀ second ∈ fixtures, homes first = homes second →
    first = second

/-- The disk after some fixtures were run: their files are as they are left when each fixture is
run alone, everything else is as before. -/
structure Merges (homes : Path → Home) (lone : Path → Disk) (done : List Path)
    (before disk : Disk) : Prop extends Disk.SameFrame before disk where
  settled : ∀ path ∈ done, ∀ role,
    disk.entryAt? ((homes path).place role) = (lone path).entryAt? ((homes path).place role)
  untouched : ∀ location, (∀ path ∈ done, ¬ (homes path).Holds location) →
    disk.entryAt? location = before.entryAt? location

section Merges

variable {homes : Path → Home} {lone : Path → Disk} {fixtures done : List Path}
  {before disk : Disk}

theorem Merges.start (homes : Path → Home) (lone : Path → Disk) (disk : Disk) :
    Merges homes lone [] disk disk :=
  ⟨.refl disk, by simp, fun _ _ => rfl⟩

theorem Merges.unique {order : List Path} {other : Disk}
    (merges : Merges homes lone done before disk) (others : Merges homes lone order before other)
    (isPerm : order.Perm done) : disk.SameExcept [] other := by
  refine ⟨others.here.trans merges.here.symm, fun location _ => ?_⟩
  by_cases isHeld : ∃ path ∈ done, (homes path).Holds location
  · obtain ⟨path, member, role, rfl⟩ := isHeld
    rw [merges.settled path member role, others.settled path (isPerm.mem_iff.mpr member) role]
  · rw [merges.untouched location fun path member holds => isHeld ⟨path, member, holds⟩,
      others.untouched location fun path member holds =>
        isHeld ⟨path, isPerm.mem_iff.mp member, holds⟩]

theorem Apart.not_holds {first second : Path} (apart : Apart homes fixtures before)
    (firstMember : first ∈ fixtures) (secondMember : second ∈ fixtures) (isOther : first ≠ second)
    (role : Role) : ¬ (homes first).Holds ((homes second).place role) := by
  rintro ⟨other, same⟩
  exact isOther (apart.eq_of_home first firstMember second secondMember
    (Home.eq_of_place same).1.symm)

theorem Merges.find_eq {path : Path} (merges : Merges homes lone fixtures before disk)
    (apart : Apart homes fixtures before) (member : path ∈ fixtures)
    (same : before.SameFrame (lone path)) (role : Role) :
    disk.find ((ofFixture path).path role) =
      (lone path).find ((ofFixture path).path role) := by
  have houses := (apart.readies path member).houses
  exact (houses.of_sameFrame same).find_congr (houses.of_sameFrame merges.toSameFrame) role
    (merges.settled path member role)

theorem Merges.sameExcept (merges : Merges homes lone fixtures before disk)
    (apart : Apart homes fixtures before) :
    before.SameExcept (fixtures ++ derivedPaths fixtures) disk := by
  refine ⟨merges.here, fun location isElsewhere => ?_⟩
  apply merges.untouched
  rintro path member ⟨role, rfl⟩
  refine isElsewhere ((ofFixture path).path role) ?_
    ((apart.readies path member).houses.leads role).placeOf?
  by_cases isDerived : role = .fixture
  · rw [isDerived]
    exact List.mem_append_left _ member
  · exact List.mem_append_right _
      (mem_derivedPaths_of_mem member (Artifacts.path_mem_derived _ isDerived))

end Merges

/-! ### Running a batch -/

section Batches

variable {host : Host} {settings : Settings} {mode : RunMode}
  {translate : Path → Bytes → Performance × Option Entry}
  {judge : Path → Path → Bytes → Bytes → Performance} {homes : Path → Home} {lone : Path → Disk}
  {outcome : Path → Outcome} {fixtures : List Path} {before : Disk}
  (apart : Apart homes fixtures before)
  (functional : ∀ path ∈ fixtures,
    Functional host settings translate judge (ofFixture path))
  (runs : ∀ path ∈ fixtures, Runs host settings mode path before (.ok (outcome path)) (lone path))

include apart functional runs

theorem Merges.step {done : List Path} {path : Path} {workspace : Workspace}
    (merges : Merges homes lone done before workspace.disk)
    (areKnown : ∀ other ∈ done ++ [path], other ∈ fixtures) (isNew : path ∉ done) :
    ∃ left log,
      (runFixture host settings mode path).run workspace =
        (.ok (outcome path), { workspace with disk := left, log := log }) ∧
      Merges homes lone (done ++ [path]) before left := by
  have member : path ∈ fixtures := areKnown path (by simp)
  have isOther (other : Path) (isDone : other ∈ done) : other ≠ path := by
    rintro rfl
    exact isNew isDone
  have isKnown (other : Path) (isDone : other ∈ done) : other ∈ fixtures :=
    areKnown other (List.mem_append_left _ isDone)
  -- The fixtures that were run before are at other homes.
  have isSame (role : Role) : workspace.disk.entryAt? ((homes path).place role) =
      before.entryAt? ((homes path).place role) :=
    merges.untouched _ fun other isDone =>
      apart.not_holds (isKnown other isDone) member (isOther other isDone) role
  obtain ⟨left, log, ran, frame, touches, isLeft⟩ := (functional path member).run_again
    (apart.readies path member) (runs path member) merges.toSameFrame isSame
  have elsewhere (location : Location) (isElsewhere : ¬ (homes path).Holds location) :
      left.entryAt? location = workspace.disk.entryAt? location :=
    touches.elsewhere location fun role _ isThere => isElsewhere ⟨role, isThere⟩
  refine ⟨left, log, ran, merges.toSameFrame.trans frame, ?_, ?_⟩
  · intro other isRun role
    rcases List.mem_append.mp isRun with isDone | isPath
    · rw [elsewhere _ (apart.not_holds member (isKnown other isDone) (isOther other isDone).symm role),
        merges.settled other isDone role]
    · rw [List.mem_singleton.mp isPath, isLeft role]
  · intro location isElsewhere
    rw [elsewhere location (isElsewhere path (by simp)),
      merges.untouched location fun other isDone =>
        isElsewhere other (List.mem_append_left _ isDone)]

variable {workspace : Workspace}

theorem runEach_merges (name : Path → String) (width : Nat) {done rest : List Path}
    (report : Report) (isUnlimited : workspace.console.lineLimit = none)
    (merges : Merges homes lone done before workspace.disk)
    (areKnown : ∀ path ∈ done ++ rest, path ∈ fixtures) (areDistinct : (done ++ rest).Nodup) :
    ∃ after, (runEach host settings mode width (rest.map fun path => (path, name path)) report).run
        workspace =
        (.ok (report.addAll name (rest.map fun path => (path, outcome path))), after) ∧
      after.console.lineLimit = none ∧
      Merges homes lone (done ++ rest) before after.disk := by
  induction rest generalizing done report workspace with
  | nil =>
      refine ⟨workspace, ?_, isUnlimited, by simpa using merges⟩
      rw [List.map_nil, List.map_nil, Report.addAll_nil]
      rfl
  | cons path rest ih =>
      have isCut : done ++ path :: rest = (done ++ [path]) ++ rest := by simp
      rw [isCut] at areKnown areDistinct ⊢
      have isNew : path ∉ done := fun isDone =>
        (List.nodup_append.mp (List.nodup_append.mp areDistinct).1).2.2 path isDone path
          (by simp) rfl
      obtain ⟨left, log, ran, mergesLeft⟩ := merges.step apart functional runs
        (fun other member => areKnown other (List.mem_append_left _ member)) isNew
      obtain ⟨written, emitted⟩ := run_emit_unlimited { workspace with disk := left, log := log }
        isUnlimited (StatusLine.line width (name path) (outcome path))
      obtain ⟨after, ranRest, isUnlimitedStill, mergesAll⟩ := @ih
        { workspace with
          disk := left, log := log, console := { workspace.console with written := written } }
        (done ++ [path]) (report.add (name path) (outcome path)) isUnlimited mergesLeft areKnown areDistinct
      refine ⟨after, ?_, isUnlimitedStill, mergesAll⟩
      rw [List.map_cons, runEach, run_bind_ok _ _ ran, run_bind_ok _ _ emitted, ranRest,
        List.map_cons, Report.addAll_add]

theorem runAll_merges {root : Path} {order : List Path}
    (isUnlimited : workspace.console.lineLimit = none) (isStart : workspace.disk = before)
    (areKnown : ∀ path ∈ order, path ∈ fixtures) (areDistinct : order.Nodup) :
    ∃ after, (runAll host root order settings mode).run workspace =
        (.ok (Report.addAll { mode } (Discovery.relativeName root)
          (order.map fun path => (path, outcome path))), after) ∧
      Merges homes lone order before after.disk := by
  have starts : Merges homes lone [] before workspace.disk := by
    rw [isStart]
    exact .start homes lone before
  obtain ⟨left, ranEach, isUnlimitedStill, merges⟩ := runEach_merges apart functional runs
    (Discovery.relativeName root) (StatusLine.width (order.map (Discovery.relativeName root)))
    { mode } isUnlimited starts areKnown areDistinct
  obtain ⟨written, emitted⟩ := run_emit_unlimited left isUnlimitedStill
    (Report.addAll { mode } (Discovery.relativeName root)
      (order.map fun path => (path, outcome path))).summaryLine
  rw [runAll, ← List.map_prod_left_eq_zip, run_bind_ok _ _ ranEach, run_bind_ok _ _ emitted,
    run_bind_ok _ _ (run_record _ _)]
  exact ⟨_, rfl, merges⟩

theorem runBatch_merges {root : Path} {order : List Path} (isRun : mode ≠ .cleanOnly)
    (isUnlimited : workspace.console.lineLimit = none) (isStart : workspace.disk = before)
    (areKnown : ∀ path ∈ order, path ∈ fixtures) (areDistinct : order.Nodup) :
    ∃ after, (runBatch host root order settings mode).run workspace =
        (.ok (Report.addAll { mode } (Discovery.relativeName root)
          (order.map fun path => (path, outcome path))), after) ∧
      Merges homes lone order before after.disk := by
  rw [runBatch, run_bind_ok _ _ (run_record workspace _), if_neg isRun]
  cases order with
  | nil =>
      refine ⟨_, rfl, ?_⟩
      rw [isStart]
      exact .start homes lone before
  | cons path rest =>
      exact runAll_merges apart functional runs isUnlimited isStart areKnown areDistinct

end Batches

theorem apart_of_discover {root : Path} {fragments : List String} {found fixtures : List Path}
    {workspace : Workspace} (isSound : workspace.disk.IsSound)
    (isDiscovered : ((Discovery.discover root fragments).run workspace).1 = .ok found)
    (areFound : ∀ path ∈ fixtures, path ∈ found)
    (areRegular : ∀ path ∈ fixtures, (ofFixture path).AreRegular workspace.disk) :
    ∃ homes, Apart homes fixtures workspace.disk := by
  have areHoused : ∀ path ∈ fixtures, ∃ home folder names,
      Discovery.Finds workspace.disk root path folder names ∧
        workspace.disk.Readies path home ∧ home.place .fixture = folder ++ names := by
    intro path member
    obtain ⟨folder, names, finds⟩ := Discovery.finds_of_discover isDiscovered (areFound path member)
    obtain ⟨home, readies, isPlace⟩ := finds.readies isSound (areRegular path member)
    exact ⟨home, folder, names, finds, readies, isPlace⟩
  have : Nonempty Home := ⟨⟨[], ""⟩⟩
  choose! homes folder names finds readies isPlace using areHoused
  refine ⟨homes, readies, fun first firstMember second secondMember sameHome => ?_⟩
  obtain ⟨firstRoot, _, firstPath, _⟩ := finds first firstMember
  obtain ⟨secondRoot, _, secondPath, _⟩ := finds second secondMember
  have sameFolder : folder first = folder second :=
    (Prod.mk.inj (Except.ok.inj (firstRoot.symm.trans secondRoot))).1
  have samePlace : folder first ++ names first = folder second ++ names second := by
    rw [← isPlace first firstMember, ← isPlace second secondMember, sameHome]
  rw [sameFolder] at samePlace
  rw [firstPath, secondPath, List.append_cancel_left samePlace]

/-- A batch runs to its end in whatever order.  It reports of each fixture the outcome of running
it alone and leaves its files as they are left then, so the disk is the same for all orders. -/
theorem runBatch_composes_lone_runs {host : Host} {settings : Settings} {mode : RunMode}
    {translate : Path → Bytes → Performance × Option Entry}
    {judge : Path → Path → Bytes → Bytes → Performance} {root : Path} {fragments : List String}
    {found fixtures : List Path} {before : Workspace} (isRun : mode ≠ .cleanOnly)
    (isUnlimited : before.console.lineLimit = none) (isSound : before.disk.IsSound)
    (isDiscovered : ((Discovery.discover root fragments).run before).1 = .ok found)
    (areFound : ∀ path ∈ fixtures, path ∈ found) (areDistinct : fixtures.Nodup)
    (areRegular : ∀ path ∈ fixtures, (Artifacts.ofFixture path).AreRegular before.disk)
    (functional : ∀ path ∈ fixtures,
      Functional host settings translate judge (Artifacts.ofFixture path)) :
    ∃ (outcome : Path → Outcome) (final : Disk),
      (∀ path ∈ fixtures, ∃ lone,
        (runFixture host settings mode path).run before = (.ok (outcome path), lone) ∧
          ∀ role, final.find ((Artifacts.ofFixture path).path role) =
            lone.disk.find ((Artifacts.ofFixture path).path role)) ∧
      before.disk.SameExcept (fixtures ++ derivedPaths fixtures) final ∧
      ∀ order, order.Perm fixtures → ∃ after,
        (runBatch host root order settings mode).run before =
          (.ok { mode, records := order.map fun path =>
            ⟨Discovery.relativeName root path, outcome path⟩ }, after) ∧
        final.SameExcept [] after.disk := by
  obtain ⟨homes, apart⟩ := apart_of_discover isSound isDiscovered areFound areRegular
  have returns : ∀ path ∈ fixtures, ∃ outcome lone,
      (runFixture host settings mode path).run before = (.ok outcome, lone) ∧
        before.disk.SameFrame lone.disk := by
    intro path member
    obtain ⟨outcome, left, log, ran, frame, _⟩ := runFixture_returns mode
      (functional path member).starts (functional path member).writesFile
      (functional path member).writesNothing (apart.readies path member)
    exact ⟨outcome, _, ran, frame⟩
  have : Nonempty Outcome := ⟨.ok⟩
  have : Nonempty Workspace := ⟨before⟩
  choose! outcome lone ran frame using returns
  have runs : ∀ path ∈ fixtures,
      Runs host settings mode path before.disk (.ok (outcome path)) (lone path).disk :=
    fun path member => ⟨before, lone path, rfl, rfl, ran path member⟩
  have merges (order : List Path) (isPerm : order.Perm fixtures) :
      ∃ after, (runBatch host root order settings mode).run before =
          (.ok (Report.addAll { mode } (Discovery.relativeName root)
            (order.map fun path => (path, outcome path))), after) ∧
        Merges homes (fun path => (lone path).disk) order before.disk after.disk :=
    runBatch_merges apart functional runs isRun isUnlimited rfl (fun _ => isPerm.mem_iff.mp)
      (isPerm.nodup_iff.mpr areDistinct)
  obtain ⟨final, _, finalMerges⟩ := merges fixtures (.refl fixtures)
  refine ⟨outcome, final.disk, fun path member => ⟨lone path, ran path member, fun role => ?_⟩, ?_, ?_⟩
  · exact finalMerges.find_eq apart member (frame path member) role
  · exact finalMerges.sameExcept apart
  · intro order isPerm
    obtain ⟨after, ranBatch, orderMerges⟩ := merges order isPerm
    refine ⟨after, ?_, finalMerges.unique orderMerges isPerm⟩
    rw [ranBatch, Report.addAll, List.nil_append, List.map_map]
    rfl

/-! ### Samples -/

theorem siblingHost_functional (change : Bytes → Bytes) {artifacts : Artifacts}
    (isBeside : artifacts.source.withExtension "ll" = artifacts.generated)
    (hasNoNul : ∀ invocation ∈ [compilation sampleSettings artifacts,
      comparison sampleSettings artifacts], invocation.hasNul = false) :
    Functional (siblingHost change) sampleSettings
      (fun _ content => ({ ending := some (.exited 0) }, some (.file (change content) false)))
      (fun _ _ expected generated =>
        { ending := some (.exited (if expected = generated then 0 else 1)) }) artifacts where
  starts invocation isOne := by
    refine ⟨hasNoNul invocation isOne, fun disk => ?_⟩
    rcases List.mem_cons.mp isOne with rfl | isComparison
    · rw [siblingHost_compile]
      split
      · exact ⟨_, rfl⟩
      · split
        · exact ⟨_, rfl⟩
        · exact ⟨_, rfl⟩
    · rw [List.mem_singleton.mp isComparison, siblingHost_compare]
      exact ⟨_, rfl⟩
  writesFile := (siblingHost_writesFiles change isBeside).compiles
  writesNothing disk := by rw [siblingHost_compare]
  compiles disk content folder name isRead leads isAbsent := by
    have isNoLink (target : String) : disk.entryAt? (folder ++ [name]) ≠ some (.link target) := by
      simp [isAbsent]
    have isWritten := (leads.routesTo isNoLink .write).write_open (change content)
      (by simp [isAbsent])
    rw [siblingHost_compile, isRead, isBeside]
    simp only [isWritten]
    rw [Disk.entryAt?_store _ _ _ _ (by simp), if_pos rfl, Disk.executableAt, isAbsent]
    exact ⟨trivial, rfl⟩
  compares disk expected generated isExpected isGenerated := by
    rw [siblingHost_compare, isExpected, isGenerated]
    simp only [Except.ok.injEq]

/-- Two fixtures in different folders, one of them with a generated file from before. -/
def nestedDisk : Disk :=
  ((((Disk.empty ["work"]).put ["work", "a.tst"]
        (.file (Text.toBytes "x\n========\ny\n") false)).put ["work", "d"] .folder).put
      ["work", "d", "b.tst"] (.file (Text.toBytes "x\n========x\n") false)).put
    ["work", "d", "b.ll"] (.file (Text.toBytes "old\n") true)

def nestedFixtures : List Path := [⟨"./a.tst"⟩, ⟨"./d/b.tst"⟩]

theorem nestedDisk_isSound : nestedDisk.IsSound := by
  have areNames : ∀ name ∈ ["work", "a.tst", "d", "b.tst", "b.ll"],
      name ≠ "" ∧ name ≠ "." ∧ name ≠ ".." := by
    decide
  have areProper : ∀ name ∈ ["work", "a.tst", "d", "b.tst", "b.ll"],
      name.utf8ByteSize ≤ Disk.nameLimit ∧ '/' ∉ name.toList ∧ '\x00' ∉ name.toList := by
    decide
  have isProper (name : String) (member : name ∈ ["work", "a.tst", "d", "b.tst", "b.ll"]) :
      Disk.IsProper name :=
    ⟨areNames name member, (areProper name member).1, (areProper name member).2.1,
      (areProper name member).2.2⟩
  have isBare : ({ entries := ∅, here := ["work"] } : Disk).IsSound := by
    intro folder name entry isThere
    simp [Disk.entryAt?] at isThere
  exact ((((isBare.put [] (isProper "work" (by simp)) .folder).put ["work"]
    (isProper "a.tst" (by simp)) _).put ["work"] (isProper "d" (by simp)) _).put ["work", "d"]
      (isProper "b.tst" (by simp)) _).put ["work", "d"] (isProper "b.ll" (by simp)) _

theorem nestedFixtures_areRegular :
    ∀ path ∈ nestedFixtures, (ofFixture path).AreRegular nestedDisk := by
  unfold Artifacts.AreRegular
  decide

theorem nestedFixtures_functional (path : Path) (member : path ∈ nestedFixtures) :
    Functional (siblingHost id) sampleSettings
      (fun _ content => ({ ending := some (.exited 0) }, some (.file (id content) false)))
      (fun _ _ expected generated =>
        { ending := some (.exited (if expected = generated then 0 else 1)) })
      (ofFixture path) := by
  have areBeside : ∀ path ∈ nestedFixtures, (ofFixture path).source.withExtension "ll" =
      (ofFixture path).generated := by
    decide +kernel
  have haveNoNul : ∀ path ∈ nestedFixtures,
      ∀ invocation ∈ [compilation sampleSettings (ofFixture path),
        comparison sampleSettings (ofFixture path)], invocation.hasNul = false := by
    decide +kernel
  exact siblingHost_functional id (areBeside path member) (haveNoNul path member)

theorem runBatch_composes_lone_runs_nested :
    ∃ after again,
      (runBatch (siblingHost id) ⟨"."⟩ nestedFixtures sampleSettings .dump).run
        { disk := nestedDisk } =
          (.ok { mode := .dump, records := [⟨"a.tst", .diffMismatch⟩, ⟨"d/b.tst", .ok⟩] }, after) ∧
      (runBatch (siblingHost id) ⟨"."⟩ nestedFixtures.reverse sampleSettings .dump).run
        { disk := nestedDisk } =
          (.ok { mode := .dump, records := [⟨"d/b.tst", .ok⟩, ⟨"a.tst", .diffMismatch⟩] }, again) ∧
      after.disk.SameExcept [] again.disk := by
  have isRoot : nestedDisk.find ⟨"."⟩ = .ok (["work"], .folder) := by decide +kernel
  have areBelow : ∀ path ∈ nestedFixtures, path ∈ ((Discovery.filesBelow nestedDisk nestedDisk.depth
      ["work"]).map (Discovery.extend ⟨"."⟩)).filter Path.isFixture := by
    decide +kernel
  obtain ⟨outcome, final, _, _, orders⟩ := @runBatch_composes_lone_runs (siblingHost id)
    sampleSettings .dump _ _ ⟨"."⟩ [] _ nestedFixtures { disk := nestedDisk } (by decide) rfl
    nestedDisk_isSound (Discovery.discover_all isRoot)
    (fun path member => Discovery.mem_fixturesBelow.mpr (areBelow path member)) (by decide)
    nestedFixtures_areRegular nestedFixtures_functional
  obtain ⟨after, ran, sameAfter⟩ := orders nestedFixtures (.refl _)
  obtain ⟨again, ranReversed, sameAgain⟩ := orders _ (List.reverse_perm nestedFixtures)
  have isReport : ((runBatch (siblingHost id) ⟨"."⟩ nestedFixtures sampleSettings .dump).run
      { disk := nestedDisk }).1 =
        .ok { mode := .dump, records := [⟨"a.tst", .diffMismatch⟩, ⟨"d/b.tst", .ok⟩] } := by
    decide +kernel
  rw [ran] at isReport
  have isRecorded := congrArg Report.records (Except.ok.inj isReport)
  simp only at isRecorded
  rw [isRecorded] at ran
  rw [List.map_reverse, isRecorded] at ranReversed
  refine ⟨after, again, ran, ranReversed, sameAgain.here.trans sameAfter.here.symm, ?_⟩
  intro location _
  rw [sameAgain.elsewhere location (by simp), sameAfter.elsewhere location (by simp)]

end Batch
end FixtureRunner
