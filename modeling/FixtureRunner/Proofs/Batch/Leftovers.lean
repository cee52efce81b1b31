/-
Runs among files that earlier runs have left.

Whatever derived files a fixture has, each of them is written or removed before it is read.
So the outcome does not depend on them, and at most an old error log is left of them.
-/

import FixtureRunner.Proofs.Batch.FailedRun
import FixtureRunner.Proofs.Batch.TwoRuns

namespace FixtureRunner

open Artifacts (ofFixture)

def Disk.isExecutable (disk : Disk) (path : Path) : Bool :=
  match disk.find path with
  | .ok (_, .file _ executable) => executable
  | _ => false

/-- The disks agree everywhere but at one place. -/
structure Disk.SameBut (place : Location) (first second : Disk) : Prop where
  here : second.here = first.here
  elsewhere : ∀ location, location ≠ place →
    second.entryAt? location = first.entryAt? location

namespace Artifacts

/-- Every derived file is a regular file or missing. -/
def IsPlain (artifacts : Artifacts) (disk : Disk) : Prop :=
  ∀ path ∈ artifacts.derived, disk.isLink path = false ∧ disk.isFolder path = false

/-- The disks differ in plain derived files only. -/
structure DifferInPlain (artifacts : Artifacts) (first second : Disk) : Prop where
  same : first.SameExcept artifacts.derived second
  isPlain : artifacts.IsPlain first ∧ artifacts.IsPlain second

/-- Moreover the fixture reads the same on both disks, and what is written over a derived file
can be executed on both or on neither. -/
structure DifferInDerived (artifacts : Artifacts) (first second : Disk) : Prop
    extends artifacts.DifferInPlain first second where
  reads : second.read artifacts.fixture = first.read artifacts.fixture
  flags : ∀ path ∈ [artifacts.source, artifacts.expected, artifacts.errorLog],
    second.isExecutable path = first.isExecutable path

/-- No derived file is a link, and no folder is where the error log belongs. -/
structure IsSettled (artifacts : Artifacts) (disk : Disk) : Prop where
  noLinks : ∀ path ∈ artifacts.derived, disk.isLink path = false
  isOpen : disk.isFolder artifacts.errorLog = false

end Artifacts

/-! ### Programs -/

namespace Host

variable (host : Host) (command : Command) (artifacts : Artifacts)

/-- The command neither reads nor writes the error log of a fixture. -/
structure Overlooks : Prop where
  unread : ∀ (first second : Disk) (place : Location), artifacts.IsSettled first →
    artifacts.IsSettled second → first.placeOf? artifacts.errorLog = some place →
    first.SameBut place second →
    (host command second).1 = (host command first).1 ∧
      (host command first).2.SameBut place (host command second).2
  unwritten : ∀ (disk : Disk) (place : Location), artifacts.IsSettled disk →
    disk.placeOf? artifacts.errorLog = some place →
    (host command disk).2.entryAt? place = disk.entryAt? place

/-- The command leaves the paths of a fixture leading where they led. -/
def KeepsPaths : Prop :=
  ∀ (disk : Disk) (role : Role) (purpose : Disk.Purpose) (spot : Disk.Spot),
    artifacts.IsSettled disk → disk.route purpose (artifacts.path role) = .ok spot →
      (host command disk).2.route purpose (artifacts.path role) = .ok spot

end Host

section Overlooks

variable {host : Host} {command : Command} {artifacts : Artifacts} {layout : Layout}

theorem Layout.Fits.isSettled {disk : Disk} (fits : layout.Fits artifacts disk)
    (isOpen : layout.IsOpen disk .errorLog) :
    artifacts.IsSettled disk := by
  refine ⟨fun path member => ?_, fits.isFolder_eq_false .errorLog isOpen⟩
  obtain ⟨role, isDerived, rfl⟩ := Artifacts.mem_derived_iff.mp member
  exact fits.isLink_eq_false isDerived

variable {files : List Role} {first second : Disk}

theorem Agree.perform
    (agree : Agree artifacts layout (fun _ => True) files [.errorLog] first second)
    (overlooks : host.Overlooks command artifacts) (keeps : host.KeepsPaths command artifacts) :
    (host command second).1 = (host command first).1 ∧
      Agree artifacts layout (fun _ => True) [] [.errorLog] (host command first).2
        (host command second).2 := by
  obtain ⟨firstOpen, secondOpen⟩ := agree.areOpen .errorLog (by simp)
  have firstSettled := agree.fitsFirst.isSettled firstOpen
  have secondSettled := agree.fitsSecond.isSettled secondOpen
  have firstPlace : first.placeOf? artifacts.errorLog = some (layout.place .errorLog) :=
    agree.fitsFirst.placeOf? .errorLog (by decide)
  have secondPlace : second.placeOf? artifacts.errorLog = some (layout.place .errorLog) :=
    agree.fitsSecond.placeOf? .errorLog (by decide)
  have sameBut : first.SameBut (layout.place .errorLog) second :=
    ⟨agree.here, fun location isElsewhere => agree.same location trivial (by simpa using isElsewhere)⟩
  obtain ⟨sameResult, sameAfter⟩ :=
    overlooks.unread first second _ firstSettled secondSettled firstPlace sameBut
  have firstLog := overlooks.unwritten first _ firstSettled firstPlace
  have secondLog := overlooks.unwritten second _ secondSettled secondPlace
  refine ⟨sameResult,
    { fitsFirst := agree.fitsFirst.mono fun role purpose _ =>
        keeps first role purpose _ firstSettled
      fitsSecond := agree.fitsSecond.mono fun role purpose _ =>
        keeps second role purpose _ secondSettled
      here := sameAfter.here
      same := fun location _ isFresh => sameAfter.elsewhere location (isFresh .errorLog (by simp))
      areOpen := ?_
      flags := ?_
      areFiles := by simp }⟩
  · intro role member
    obtain rfl := List.mem_singleton.mp member
    unfold Layout.IsOpen
    rw [firstLog, secondLog]
    exact ⟨firstOpen, secondOpen⟩
  · intro role member isOther
    obtain rfl := List.mem_singleton.mp member
    rw [Disk.executableAt_congr firstLog, Disk.executableAt_congr secondLog]
    exact agree.flags .errorLog (by simp) (by decide)

theorem Agree.sameExcept_nil
    (agree : Agree artifacts layout (fun _ => True) files [] first second) :
    first.SameExcept [] second :=
  ⟨agree.here, fun location _ => agree.same location trivial (by simp)⟩

theorem Agree.sameExcept_log
    (agree : Agree artifacts layout (fun _ => True) files [.errorLog] first second) :
    first.SameExcept [artifacts.errorLog] second := by
  refine ⟨agree.here, fun location isElsewhere => agree.same location trivial ?_⟩
  intro role member isThere
  obtain rfl := List.mem_singleton.mp member
  rw [isThere] at isElsewhere
  exact isElsewhere artifacts.errorLog (by simp) (agree.fitsFirst.placeOf? .errorLog (by decide))

end Overlooks

/-! ### Where the leftovers are -/

section Layout

variable {artifacts : Artifacts} {disk : Disk} {home : Home}

theorem Artifacts.IsPlain.entry {role : Role} (isPlain : artifacts.IsPlain disk)
    (isDerived : role ∈ Role.derived)
    (leads : disk.Leads (artifacts.path role) home.folder (home.name role)) :
    (∀ target, disk.entryAt? (home.place role) ≠ some (.link target)) ∧ home.IsOpen disk role := by
  obtain ⟨isNoLink, isNoFolder⟩ :=
    isPlain _ (artifacts.derived_eq ▸ List.mem_map_of_mem isDerived)
  have noLink := leads.isLink_eq_false_iff.mp isNoLink
  refine ⟨noLink, fun isFolder => ?_⟩
  have found : disk.entryAt? (home.folder ++ [home.name role]) = some .folder := isFolder
  rw [Disk.isFolder, (leads.routesTo noLink .look).find_eq, found] at isNoFolder
  cases isNoFolder

variable {path : Path} {content : Bytes} {first second : Disk}

theorem Disk.Leads.isExecutable_eq {folder : Location} {name : String}
    (leads : disk.Leads path folder name)
    (isNoLink : ∀ target, disk.entryAt? (folder ++ [name]) ≠ some (.link target)) :
    disk.isExecutable path = disk.executableAt (folder ++ [name]) := by
  rw [Disk.isExecutable, (leads.routesTo isNoLink .look).find_eq, Disk.executableAt]
  cases disk.entryAt? (folder ++ [name]) with
  | none => rfl
  | some entry => cases entry <;> rfl

theorem Artifacts.IsPlain.leads (isPlain : (ofFixture path).IsPlain disk)
    (isFixture : path.isFixture = true) (isRead : disk.read path = .ok content) :
    ∃ home : Home, ∀ role,
      disk.Leads ((ofFixture path).path role) home.folder (home.name role) := by
  obtain ⟨_, _, leads⟩ := Disk.leads_of_read isRead
  rcases Disk.leads_or_folders isFixture leads with leadsAll | folders
  · exact leadsAll
  · obtain ⟨location, routed⟩ := folders .source (by decide)
    obtain ⟨_, isNoFolder⟩ := isPlain (ofFixture path).source (by simp [Artifacts.derived])
    have isFolder : disk.isFolder (ofFixture path).source = true := by
      have found : disk.route .look (ofFixture path).source = .ok (.folder location) :=
        routed .look
      rw [Disk.isFolder, Disk.find, found]
      rfl
    rw [isNoFolder] at isFolder
    cases isFolder

theorem Artifacts.DifferInDerived.elsewhere (differ : artifacts.DifferInDerived first second)
    (leads : ∀ role, first.Leads (artifacts.path role) home.folder (home.name role))
    {location : Location} (isElsewhere : ∀ role, role ≠ .fixture → location ≠ home.place role) :
    second.entryAt? location = first.entryAt? location := by
  apply differ.same.elsewhere
  intro path member isPlace
  obtain ⟨role, isDerived, rfl⟩ := Artifacts.mem_derived_iff.mp member
  rw [(leads role).placeOf?] at isPlace
  exact isElsewhere role isDerived (Option.some.inj isPlace).symm

theorem Artifacts.DifferInDerived.keepsRoutes (differ : artifacts.DifferInDerived first second)
    (leads : ∀ role, first.Leads (artifacts.path role) home.folder (home.name role)) :
    Disk.KeepsRoutes first second := by
  have entry (role : Role) (isDerived : role ≠ .fixture) :=
    differ.isPlain.1.entry (Role.mem_derived.mpr isDerived) (leads role)
  refine ⟨differ.same.here, fun location isFolder => ?_, fun location target isLink => ?_⟩
  · rw [differ.elsewhere leads, isFolder]
    rintro role isDerived rfl
    exact (entry role isDerived).2 isFolder
  · rw [differ.elsewhere leads, isLink]
    rintro role isDerived rfl
    exact (entry role isDerived).1 target isLink

theorem Artifacts.DifferInDerived.agree
    (differ : (ofFixture path).DifferInDerived first second)
    (isFixture : path.isFixture = true) (isRead : first.read path = .ok content) :
    ∃ layout, Agree (ofFixture path) layout (fun _ => True) []
      [.source, .expected, .generated, .errorLog] first second := by
  obtain ⟨home, leads⟩ := differ.isPlain.1.leads isFixture isRead
  have keeps := differ.keepsRoutes leads
  have leadsToo (role : Role) := (leads role).mono keeps
  have entry (role : Role) (isDerived : role ≠ .fixture) :=
    differ.isPlain.1.entry (Role.mem_derived.mpr isDerived) (leads role)
  have entryToo (role : Role) (isDerived : role ≠ .fixture) :=
    differ.isPlain.2.entry (Role.mem_derived.mpr isDerived) (leadsToo role)
  have makesNoLink (location : Location) (target : String)
      (isLink : second.entryAt? location = some (.link target)) :
      first.entryAt? location = some (.link target) := by
    rw [← differ.elsewhere leads, isLink]
    rintro role isDerived rfl
    exact (entryToo role isDerived).1 target isLink
  obtain ⟨folder, name, _, _, routed⟩ := Disk.route_of_read isRead
  have routedToo (purpose : Disk.Purpose) (isFollowing : purpose ≠ .edit) :=
    Disk.route_mono keeps makesNoLink (routed purpose isFollowing)
  have fits := Layout.fits_of_leads leads (fun role isDerived => (entry role isDerived).1) routed
  have fitsToo :=
    Layout.fits_of_leads leadsToo (fun role isDerived => (entryToo role isDerived).1) routedToo
  have derivedStale : ∀ role ∈ [Role.source, .expected, .generated, .errorLog], role ≠ .fixture := by
    decide
  refine ⟨⟨home, folder ++ [name]⟩,
    { fitsFirst := fits
      fitsSecond := fitsToo
      here := differ.same.here
      same := ?_
      areOpen := ?_
      flags := ?_
      areFiles := by simp }⟩
  · intro location _ isFresh
    apply differ.elsewhere leads
    intro role isDerived
    have isStale : role ∈ [Role.source, .expected, .generated, .errorLog] := by
      revert isDerived
      cases role <;> decide
    have isOther := isFresh role isStale
    rwa [Layout.place_derived _ isDerived] at isOther
  · intro role member
    have isDerived := derivedStale role member
    unfold Layout.IsOpen
    rw [Layout.place_derived _ isDerived]
    exact ⟨(entry role isDerived).2, (entryToo role isDerived).2⟩
  · intro role member isOther
    have isDerived := derivedStale role member
    rw [Layout.place_derived _ isDerived]
    have isReplaced : (ofFixture path).path role ∈
        [Role.source, .expected, .errorLog].map (ofFixture path).path := by
      apply List.mem_map_of_mem
      revert member isOther
      cases role <;> decide
    have sameFlag := differ.flags _ isReplaced
    rw [(leads role).isExecutable_eq (entry role isDerived).1,
      (leadsToo role).isExecutable_eq (entryToo role isDerived).1] at sameFlag
    exact sameFlag

theorem Artifacts.differInPlain_put {place : Location} {executable : Bool}
    (isDerived : path ∈ artifacts.derived) (isPlace : disk.placeOf? path = some place)
    (isBelow : place ≠ []) (isPlain : artifacts.IsPlain disk)
    (isPlainToo : artifacts.IsPlain (disk.put place (.file content executable))) :
    artifacts.DifferInPlain disk (disk.put place (.file content executable)) := by
  refine ⟨⟨rfl, fun location isElsewhere => ?_⟩, isPlain, isPlainToo⟩
  have isOther : location ≠ place := by
    rintro rfl
    exact isElsewhere path isDerived isPlace
  rw [Disk.entryAt?_put _ _ _ _ isBelow, if_neg isOther]

end Layout

namespace Batch

/-- Derived files that were left earlier have no bearing on what a run returns.  Unless the
fixture is malformed nothing is left of them but perhaps an old error log, when the run
passes and keeps the derived files. -/
theorem runFixture_ignores_leftovers {host : Host} {settings : Settings} (mode : RunMode)
    {path : Path} {first second : Workspace} (isFixture : path.isFixture = true)
    (differ : (Artifacts.ofFixture path).DifferInDerived first.disk second.disk)
    (overlooks : ∀ invocation ∈ [compilation settings (Artifacts.ofFixture path),
        comparison settings (Artifacts.ofFixture path)],
      host.Overlooks invocation.command (Artifacts.ofFixture path))
    (keepsPaths : ∀ invocation ∈ [compilation settings (Artifacts.ofFixture path),
        comparison settings (Artifacts.ofFixture path)],
      host.KeepsPaths invocation.command (Artifacts.ofFixture path)) :
    ((runFixture host settings mode path).run second).1 =
        ((runFixture host settings mode path).run first).1 ∧
      ∀ outcome, ((runFixture host settings mode path).run first).1 = .ok outcome →
        outcome ≠ .malformed →
        ((runFixture host settings mode path).run first).2.disk.SameExcept []
            ((runFixture host settings mode path).run second).2.disk ∨
          (mode = .dump ∨ mode = .cleanOnly) ∧ outcome = .ok ∧
            ((runFixture host settings mode path).run first).2.disk.SameExcept
              [(Artifacts.ofFixture path).errorLog]
              ((runFixture host settings mode path).run second).2.disk := by
  cases isRead : first.disk.read path with
  | error cause =>
      have isReadToo : second.disk.read path = .error cause := differ.reads.trans isRead
      rw [runFixture_unreadable host settings mode isRead,
        runFixture_unreadable host settings mode isReadToo]
      exact ⟨rfl, nofun⟩
  | ok content =>
      obtain ⟨layout, agree⟩ := differ.agree isFixture isRead
      have actAlike : ActAlike host settings (Artifacts.ofFixture path) layout (fun _ => True) []
          [.errorLog] :=
        ⟨fun _ _ related _ =>
            related.perform (overlooks _ (by simp)) (keepsPaths _ (by simp)),
          fun _ _ related => related.perform (overlooks _ (by simp)) (keepsPaths _ (by simp))⟩
      obtain ⟨sameResult, areRelated⟩ := runFixture_alike mode (fun _ => trivial) (by simp) actAlike
        (by simp) (by simp) rfl first second ⟨agree, differ.reads⟩
      refine ⟨sameResult, fun outcome isOutcome isNotMalformed => ?_⟩
      obtain ⟨isUpdate, agreeAfter⟩ := areRelated outcome isOutcome
      by_cases purges : (mode.purges && !outcome.isFailure) = true
      · rw [if_pos purges] at agreeAfter
        exact Or.inl agreeAfter.sameExcept_nil
      · rw [if_neg purges] at agreeAfter
        cases outcome with
        | compileError => exact Or.inl agreeAfter.sameExcept_nil
        | diffMismatch => exact Or.inl agreeAfter.sameExcept_nil
        | malformed => exact absurd rfl isNotMalformed
        | updated =>
            rw [isUpdate rfl] at purges
            exact absurd rfl purges
        | ok =>
            refine Or.inr ⟨?_, rfl, agreeAfter.sameExcept_log⟩
            cases mode with
            | clean => exact absurd rfl purges
            | update => exact absurd rfl purges
            | dump => exact Or.inl rfl
            | cleanOnly => exact Or.inr rfl

/-! ### Samples -/

/-- The compiler puts an entry into the working directory, unless a folder is in the way, and
ends with a status that is read off the disk.  The comparison passes. -/
def puttingHost (status : Disk → Nat) (name : String) (entry : Entry) : Host :=
  fun command disk =>
    if command.program = "cc" then
      (.ok { ending := some (.exited (status disk)) },
        if disk.entryAt? (disk.here ++ [name]) = some .folder then disk
        else disk.put (disk.here ++ [name]) entry)
    else
      (.ok { ending := some (.exited 0) }, disk)

section Putting

variable {status : Disk → Nat} {name : String} {entry : Entry} {artifacts : Artifacts}

theorem puttingHost_overlooks
    (isApart : ∀ (disk : Disk) (place : Location),
      disk.placeOf? artifacts.errorLog = some place → place ≠ disk.here ++ [name])
    (isBlind : ∀ (first second : Disk) (place : Location),
      first.placeOf? artifacts.errorLog = some place → first.SameBut place second →
        status second = status first) (command : Command) :
    (puttingHost status name entry).Overlooks command artifacts := by
  unfold puttingHost
  by_cases isCompiler : command.program = "cc"
  · constructor
    · intro first second place _ _ isPlace sameBut
      have isOther := isApart first place isPlace
      simp only [if_pos isCompiler, isBlind first second place isPlace sameBut, sameBut.here,
        sameBut.elsewhere _ isOther.symm, true_and]
      by_cases isFolder : first.entryAt? (first.here ++ [name]) = some .folder
      · rw [if_pos isFolder, if_pos isFolder]
        exact sameBut
      · rw [if_neg isFolder, if_neg isFolder]
        refine ⟨sameBut.here, fun location isElsewhere => ?_⟩
        rw [Disk.entryAt?_put _ _ _ _ (by simp), Disk.entryAt?_put _ _ _ _ (by simp),
          sameBut.elsewhere location isElsewhere]
    · intro disk place _ isPlace
      simp only [if_pos isCompiler]
      split
      · rfl
      · rw [Disk.entryAt?_put _ _ _ _ (by simp), if_neg (isApart disk place isPlace)]
  · constructor
    · intro first second place _ _ _ sameBut
      rw [if_neg isCompiler, if_neg isCompiler]
      exact ⟨rfl, sameBut⟩
    · intro disk place _ _
      rw [if_neg isCompiler]

theorem puttingHost_keepsPaths {content : Bytes} {executable : Bool}
    (isNoLink : ∀ disk : Disk, artifacts.IsSettled disk → ∀ target,
      disk.entryAt? (disk.here ++ [name]) ≠ some (.link target)) (command : Command) :
    (puttingHost status name (.file content executable)).KeepsPaths command artifacts := by
  intro disk role purpose spot isSettled routed
  unfold puttingHost
  by_cases isCompiler : command.program = "cc"
  · simp only [if_pos isCompiler]
    split
    · exact routed
    · rename_i isOpen
      have elsewhere (location : Location) (isElsewhere : location ≠ disk.here ++ [name]) :
          (disk.put (disk.here ++ [name]) (.file content executable)).entryAt? location =
            disk.entryAt? location := by
        rw [Disk.entryAt?_put _ _ _ _ (by simp), if_neg isElsewhere]
      have keeps : Disk.KeepsRoutes disk
          (disk.put (disk.here ++ [name]) (.file content executable)) :=
        Disk.keepsRoutes_of_change rfl elsewhere isOpen (isNoLink disk isSettled)
      refine Disk.route_mono keeps (fun location target isLink => ?_) routed
      rw [Disk.entryAt?_put _ _ _ _ (by simp)] at isLink
      split at isLink
      · cases isLink
      · exact isLink
  · rw [if_neg isCompiler]
    exact routed

end Putting

theorem sampleErrorLog_apart {path : Path} {leading : List String} {name : String}
    (segments : Disk.segmentsOf path.text = leading ++ ["a.err"]) (isOther : name ≠ "a.err")
    (disk : Disk) (place : Location) (isPlace : disk.placeOf? path = some place) :
    place ≠ disk.here ++ [name] := by
  have isName : Disk.IsName "a.err" := by
    unfold Disk.IsName
    decide
  obtain ⟨folder, rfl⟩ := Disk.placeOf?_concat segments isName isPlace
  intro same
  exact isOther (List.cons.inj (List.append_inj_right' same rfl)).1.symm

theorem sampleGenerated_isNoLink {disk : Disk}
    (isSettled : (ofFixture ⟨"a.tst"⟩).IsSettled disk) (target : String) :
    disk.entryAt? (disk.here ++ ["a.ll"]) ≠ some (.link target) := by
  intro isLink
  have isLinkPath : disk.isLink ⟨"a.ll"⟩ = true := by
    rw [Disk.isLink, placeOf?_sampleGenerated, Option.bind_some, isLink]
  rw [isSettled.noLinks ⟨"a.ll"⟩ (by rw [sampleArtifacts_eq]; simp [Artifacts.derived])] at isLinkPath
  cases isLinkPath

theorem sampleHost_overlooks {status : Disk → Nat} {entry : Entry}
    (isBlind : ∀ (first second : Disk) (place : Location),
      first.placeOf? ⟨"a.err"⟩ = some place → first.SameBut place second →
        status second = status first) (command : Command) :
    (puttingHost status "a.ll" entry).Overlooks command (ofFixture ⟨"a.tst"⟩) := by
  rw [sampleArtifacts_eq]
  refine puttingHost_overlooks (fun disk place => ?_) isBlind command
  have segments : Disk.segmentsOf (Path.mk "a.err").text = [] ++ ["a.err"] := by decide
  exact sampleErrorLog_apart segments (by decide) disk place

def bareDisk : Disk :=
  (Disk.empty ["work"]).put ["work", "a.tst"] (.file (Text.toBytes "x\n========\ny\n") false)

theorem bareDisk_isPlain : (ofFixture ⟨"a.tst"⟩).IsPlain bareDisk := by
  unfold Artifacts.IsPlain
  decide

def passingHost : Host :=
  puttingHost (fun _ => 0) "a.ll" (.file (Text.toBytes "y\n") false)

theorem passingHost_overlooks (command : Command) :
    passingHost.Overlooks command (ofFixture ⟨"a.tst"⟩) :=
  sampleHost_overlooks (fun _ _ _ _ _ => rfl) command

theorem passingHost_keepsPaths (command : Command) :
    passingHost.KeepsPaths command (ofFixture ⟨"a.tst"⟩) :=
  puttingHost_keepsPaths (fun _ => sampleGenerated_isNoLink) command

/-- What the compiler has left of an earlier run and the errors of another are both gone. -/
theorem runFixture_ignores_leftovers_staleDisk :
    ((runFixture passingHost sampleSettings .clean ⟨"a.tst"⟩).run { disk := staleDisk }).1 =
        .ok .ok ∧
      ((runFixture passingHost sampleSettings .clean ⟨"a.tst"⟩).run
          { disk := bareDisk }).2.disk.SameExcept []
        ((runFixture passingHost sampleSettings .clean ⟨"a.tst"⟩).run
          { disk := staleDisk }).2.disk := by
  have generatedPlace : bareDisk.placeOf? (Artifacts.ofFixture ⟨"a.tst"⟩).generated =
      some ["work", "a.ll"] := by
    decide +kernel
  have logPlace : bareDisk.placeOf? (Artifacts.ofFixture ⟨"a.tst"⟩).errorLog =
      some ["work", "a.err"] := by
    decide +kernel
  have same : bareDisk.SameExcept (Artifacts.ofFixture ⟨"a.tst"⟩).derived staleDisk := by
    refine ⟨rfl, fun location isElsewhere => ?_⟩
    have isNotGenerated : location ≠ ["work", "a.ll"] := by
      rintro rfl
      exact isElsewhere _ (by simp [Artifacts.derived]) generatedPlace
    have isNoLog : location ≠ ["work", "a.err"] := by
      rintro rfl
      exact isElsewhere _ (by simp [Artifacts.derived]) logPlace
    rw [staleDisk, Disk.entryAt?_put _ _ _ _ (by simp), if_neg isNoLog,
      Disk.entryAt?_put _ _ _ _ (by simp), if_neg isNotGenerated]
    rfl
  have isPlainToo : (Artifacts.ofFixture ⟨"a.tst"⟩).IsPlain staleDisk := by
    unfold Artifacts.IsPlain
    decide +kernel
  have differ : (Artifacts.ofFixture ⟨"a.tst"⟩).DifferInDerived
      { disk := bareDisk : Workspace }.disk { disk := staleDisk : Workspace }.disk :=
    ⟨⟨same, bareDisk_isPlain, isPlainToo⟩, by decide +kernel, by decide +kernel⟩
  obtain ⟨sameResult, sameDisk⟩ := runFixture_ignores_leftovers .clean sampleIsFixture differ
    (fun invocation _ => passingHost_overlooks invocation.command)
    (fun invocation _ => passingHost_keepsPaths invocation.command)
  have isOk : ((runFixture passingHost sampleSettings .clean ⟨"a.tst"⟩).run
      { disk := bareDisk }).1 = .ok .ok := by
    decide +kernel
  refine ⟨sameResult.trans isOk, ?_⟩
  rcases sameDisk .ok isOk (by decide) with isSame | ⟨isKeeping, _⟩
  · exact isSame
  · simp at isKeeping

/-! ### Where leftovers matter -/

def checkingHost : Host :=
  puttingHost (fun disk => if disk.executableAt (disk.here ++ ["a.syp"]) then 1 else 0) "a.ll"
    (.file (Text.toBytes "y\n") false)

theorem checkingHost_overlooks (command : Command) :
    checkingHost.Overlooks command (ofFixture ⟨"a.tst"⟩) := by
  refine sampleHost_overlooks (fun first second place isPlace sameBut => ?_) command
  have segments : Disk.segmentsOf (Path.mk "a.err").text = [] ++ ["a.err"] := by decide
  have isOther : "a.syp" ≠ "a.err" := by decide
  have isApart := sampleErrorLog_apart segments isOther first place isPlace
  rw [sameBut.here, Disk.executableAt_congr (sameBut.elsewhere _ isApart.symm)]

theorem checkingHost_keepsPaths (command : Command) :
    checkingHost.KeepsPaths command (ofFixture ⟨"a.tst"⟩) :=
  puttingHost_keepsPaths (fun _ => sampleGenerated_isNoLink) command

def executableDisk : Disk :=
  bareDisk.put ["work", "a.syp"] (.file (Text.toBytes "old\n") true)

theorem executableDisk_differs :
    (ofFixture ⟨"a.tst"⟩).DifferInPlain bareDisk executableDisk := by
  have isPlace : bareDisk.placeOf? ⟨"a.syp"⟩ = some ["work", "a.syp"] := by decide
  refine Artifacts.differInPlain_put (by decide) isPlace (by simp) bareDisk_isPlain ?_
  unfold Artifacts.IsPlain
  decide

/-- A compiler that makes its text a link to the error log. -/
def aliasingHost : Host :=
  puttingHost (fun _ => 0) "a.ll" (.link "a.err")

def loggedDisk : Disk :=
  bareDisk.put ["work", "a.err"] (.file (Text.toBytes "old\n") false)

theorem loggedDisk_differs :
    (ofFixture ⟨"a.tst"⟩).DifferInDerived bareDisk loggedDisk := by
  have isPlace : bareDisk.placeOf? ⟨"a.err"⟩ = some ["work", "a.err"] := by decide
  refine ⟨Artifacts.differInPlain_put (by decide) isPlace (by simp) bareDisk_isPlain ?_,
    by decide, by decide⟩
  unfold Artifacts.IsPlain
  decide

/-- A compiler that lets the folder of the fixture be another one. -/
def relinkingHost : Host :=
  puttingHost (fun _ => 0) "l" (.link "e")

theorem relinkingHost_overlooks (command : Command) :
    relinkingHost.Overlooks command (ofFixture ⟨"l/a.tst"⟩) := by
  have segments : Disk.segmentsOf (ofFixture ⟨"l/a.tst"⟩).errorLog.text =
      ["l"] ++ ["a.err"] := by
    decide
  exact puttingHost_overlooks (sampleErrorLog_apart segments (by decide)) (fun _ _ _ _ _ => rfl)
    command

/-- A fixture in a folder that is reached through a link, beside another folder. -/
def relinkedDisk : Disk :=
  (((((Disk.empty ["work"]).put ["work", "d"] .folder).put ["work", "e"] .folder).put
      ["work", "l"] (.link "d")).put ["work", "d", "a.tst"]
      (.file (Text.toBytes "x\n========\ny\n") false)).put ["work", "e", "a.ll"]
    (.file (Text.toBytes "y\n") false)

def relinkedLoggedDisk : Disk :=
  relinkedDisk.put ["work", "d", "a.err"] (.file (Text.toBytes "old\n") false)

theorem relinkedLoggedDisk_differs :
    (ofFixture ⟨"l/a.tst"⟩).DifferInDerived relinkedDisk relinkedLoggedDisk := by
  have isPlace : relinkedDisk.placeOf? ⟨"l/a.err"⟩ = some ["work", "d", "a.err"] := by
    decide
  refine ⟨Artifacts.differInPlain_put (by decide) isPlace (by simp) ?_ ?_,
    by decide, by decide⟩
  · unfold Artifacts.IsPlain
    decide
  · unfold Artifacts.IsPlain
    decide

def linkedDisk : Disk :=
  (Disk.empty ["work"]).put ["work", "a.tst"] (.link "a.err")

def linkedLoggedDisk : Disk :=
  linkedDisk.put ["work", "a.err"] (.file (Text.toBytes "x\n========\ny\n") false)

theorem linkedLoggedDisk_differs :
    (ofFixture ⟨"a.tst"⟩).DifferInPlain linkedDisk linkedLoggedDisk := by
  have isPlace : linkedDisk.placeOf? ⟨"a.err"⟩ = some ["work", "a.err"] := by decide
  refine Artifacts.differInPlain_put (by decide) isPlace (by simp) ?_ ?_
  · unfold Artifacts.IsPlain
    decide
  · unfold Artifacts.IsPlain
    decide

/-- Leftovers do matter if a source can be executed on one disk only, if a program makes a path
of the fixture lead elsewhere, and if the fixture is itself a link to one of them. -/
theorem leftovers_matter :
    ((∀ command, checkingHost.Overlooks command (Artifacts.ofFixture ⟨"a.tst"⟩) ∧
        checkingHost.KeepsPaths command (Artifacts.ofFixture ⟨"a.tst"⟩)) ∧
      (Artifacts.ofFixture ⟨"a.tst"⟩).DifferInPlain bareDisk executableDisk ∧
      executableDisk.read ⟨"a.tst"⟩ = bareDisk.read ⟨"a.tst"⟩ ∧
      ((runFixture checkingHost sampleSettings .clean ⟨"a.tst"⟩).run
        { disk := bareDisk }).1 = .ok .ok ∧
      ((runFixture checkingHost sampleSettings .clean ⟨"a.tst"⟩).run
        { disk := executableDisk }).1 = .ok .compileError) ∧
    ((∀ command, aliasingHost.Overlooks command (Artifacts.ofFixture ⟨"a.tst"⟩)) ∧
      (Artifacts.ofFixture ⟨"a.tst"⟩).DifferInDerived bareDisk loggedDisk ∧
      ((runFixture aliasingHost sampleSettings .clean ⟨"a.tst"⟩).run
        { disk := bareDisk }).1 = .ok .compileError ∧
      ((runFixture aliasingHost sampleSettings .clean ⟨"a.tst"⟩).run
        { disk := loggedDisk }).1 = .ok .ok) ∧
    ((∀ command, relinkingHost.Overlooks command (Artifacts.ofFixture ⟨"l/a.tst"⟩)) ∧
      (Artifacts.ofFixture ⟨"l/a.tst"⟩).DifferInDerived relinkedDisk relinkedLoggedDisk ∧
      ((runFixture relinkingHost sampleSettings .clean ⟨"l/a.tst"⟩).run
        { disk := relinkedDisk }).1 = .ok .ok ∧
      ((runFixture relinkingHost sampleSettings .clean ⟨"l/a.tst"⟩).run
          { disk := relinkedLoggedDisk }).2.disk.find ⟨"d/a.err"⟩ ≠
        ((runFixture relinkingHost sampleSettings .clean ⟨"l/a.tst"⟩).run
          { disk := relinkedDisk }).2.disk.find ⟨"d/a.err"⟩) ∧
    (∀ command, passingHost.Overlooks command (Artifacts.ofFixture ⟨"a.tst"⟩) ∧
        passingHost.KeepsPaths command (Artifacts.ofFixture ⟨"a.tst"⟩)) ∧
      (Artifacts.ofFixture ⟨"a.tst"⟩).DifferInPlain linkedDisk linkedLoggedDisk ∧
      (∀ path ∈ (Artifacts.ofFixture ⟨"a.tst"⟩).derived,
        linkedLoggedDisk.isExecutable path = linkedDisk.isExecutable path) ∧
      ((runFixture passingHost sampleSettings .clean ⟨"a.tst"⟩).run
        { disk := linkedDisk }).1 = .error (.access ⟨"a.tst"⟩ .missing) ∧
      ((runFixture passingHost sampleSettings .clean ⟨"a.tst"⟩).run
        { disk := linkedLoggedDisk }).1 = .ok .ok := by
  refine ⟨⟨?_, executableDisk_differs, ?_⟩, ⟨?_, loggedDisk_differs, ?_⟩,
    ⟨relinkingHost_overlooks, relinkedLoggedDisk_differs, ?_⟩, ?_, linkedLoggedDisk_differs, ?_⟩
  · exact fun command => ⟨checkingHost_overlooks command, checkingHost_keepsPaths command⟩
  · decide +kernel
  · exact sampleHost_overlooks fun _ _ _ _ _ => rfl
  · decide +kernel
  · decide +kernel
  · exact fun command => ⟨passingHost_overlooks command, passingHost_keepsPaths command⟩
  · decide +kernel

end Batch

end FixtureRunner
