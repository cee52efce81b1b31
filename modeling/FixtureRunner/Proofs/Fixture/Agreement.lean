/-
The files of a fixture on two disks.

The disks agree on what is seen of them, but for some derived files that are stale.  A
stale file that is written or removed is stale no longer, so each action on the files of
the fixture behaves alike and leaves fewer stale files.
-/

import FixtureRunner.Proofs.Alike
import FixtureRunner.Proofs.Fixture.Actions

namespace FixtureRunner

open FixtureRunner.Action

/-- Where the files of a fixture are read and written: the derived ones at home, the fixture
wherever its path leads. -/
structure Layout where
  home : Home
  fixture : Location

namespace Layout

def place (layout : Layout) (role : Role) : Location :=
  if role = .fixture then layout.fixture else layout.home.place role

theorem place_derived (layout : Layout) {role : Role} (isDerived : role ≠ .fixture) :
    layout.place role = layout.home.place role :=
  if_neg isDerived

theorem eq_of_place (layout : Layout) {first second : Role} (firstDerived : first ≠ .fixture)
    (secondDerived : second ≠ .fixture) (same : layout.place first = layout.place second) :
    first = second := by
  rw [layout.place_derived firstDerived, layout.place_derived secondDerived] at same
  exact layout.home.place_inj.mp same

/-- No folder is in the way of the file. -/
abbrev IsOpen (layout : Layout) (disk : Disk) (role : Role) : Prop :=
  disk.entryAt? (layout.place role) ≠ some .folder

/-- The paths of a fixture lead to the places of the layout, whatever they are wanted for.
Only the fixture may be a link, which is never removed. -/
def Fits (layout : Layout) (artifacts : Artifacts) (disk : Disk) : Prop :=
  ∀ role purpose, (role = .fixture → purpose ≠ .edit) →
    disk.RoutesTo purpose (artifacts.path role) (layout.place role)

theorem fits_of_leads {artifacts : Artifacts} {disk : Disk} {home : Home} {folder : Location}
    {name : String}
    (leads : ∀ role, disk.Leads (artifacts.path role) home.folder (home.name role))
    (isNoLink : ∀ role, role ≠ .fixture → ∀ target,
      disk.entryAt? (home.place role) ≠ some (.link target))
    (routed : ∀ purpose, purpose ≠ .edit →
      disk.route purpose artifacts.fixture = .ok (.name folder name false)) :
    Fits ⟨home, folder ++ [name]⟩ artifacts disk := by
  intro role purpose isWanted
  by_cases isDerived : role = .fixture
  · subst isDerived
    exact ⟨folder, name, rfl, routed purpose (isWanted rfl)⟩
  · exact ⟨home.folder, home.name role, if_neg isDerived,
      (leads role).route_of_no_link purpose (isNoLink role isDerived)⟩

namespace Fits

variable {layout : Layout} {artifacts : Artifacts} {disk after : Disk}
  (fits : layout.Fits artifacts disk)

include fits

theorem place_ne_nil (role : Role) : layout.place role ≠ [] := by
  obtain ⟨folder, name, isPlace, _⟩ := fits role .look (by simp)
  simp [isPlace]

theorem isNoLink (role : Role) (target : String) :
    disk.entryAt? (layout.place role) ≠ some (.link target) := by
  obtain ⟨folder, name, isPlace, routed⟩ := fits role .look (by simp)
  obtain ⟨_, _, _, settled⟩ := Disk.route_eq_ok_iff.mp routed
  rw [isPlace]
  exact Disk.not_link_of_settle (by decide) settled target

theorem placeOf? (role : Role) (isDerived : role ≠ .fixture) :
    disk.placeOf? (artifacts.path role) = some (layout.place role) := by
  obtain ⟨folder, name, isPlace, routed⟩ := fits role .edit fun isFixture _ => isDerived isFixture
  rw [Disk.placeOf?, routed, isPlace]

variable {role : Role}

theorem isLink_eq_false (isDerived : role ≠ .fixture) :
    disk.isLink (artifacts.path role) = false := by
  rw [Disk.isLink, fits.placeOf? role isDerived, Option.bind_some]
  split
  · rename_i target isLink
    exact absurd isLink (fits.isNoLink role target)
  · rfl

theorem look (role : Role) : disk.RoutesTo .look (artifacts.path role) (layout.place role) :=
  fits role .look (by simp)

theorem isFolder_eq_false (role : Role) (isOpen : layout.IsOpen disk role) :
    disk.isFolder (artifacts.path role) = false := by
  rw [Disk.isFolder, (fits.look role).find_eq]
  cases found : disk.entryAt? (layout.place role) with
  | none => rfl
  | some entry =>
      cases entry with
      | folder => exact absurd found isOpen
      | file content executable => rfl
      | link target => rfl

theorem mono (keeps : ∀ role purpose spot, disk.route purpose (artifacts.path role) = .ok spot →
    after.route purpose (artifacts.path role) = .ok spot) : layout.Fits artifacts after := by
  intro role purpose isWanted
  obtain ⟨folder, name, isPlace, routed⟩ := fits role purpose isWanted
  exact ⟨folder, name, isPlace, keeps role purpose _ routed⟩

theorem change (here : after.here = disk.here)
    (elsewhere : ∀ location, location ≠ layout.place role → after.entryAt? location = disk.entryAt?
      location) (isOpen : layout.IsOpen disk role)
    (makesNoLink : ∀ target, after.entryAt? (layout.place role) ≠ some (.link target)) :
    layout.Fits artifacts after := by
  have keeps := Disk.keepsRoutes_of_change here elsewhere isOpen (fits.isNoLink role)
  refine fits.mono fun other purpose spot => Disk.route_mono keeps fun location target isLink => ?_
  have isElsewhere : location ≠ layout.place role := by
    rintro rfl
    exact makesNoLink target isLink
  rw [← elsewhere location isElsewhere, isLink]

theorem entryAt?_store (role : Role) (content : Bytes) (location : Location) :
    (disk.store (layout.place role) content).entryAt? location =
      if location = layout.place role then
        some (.file content (disk.executableAt (layout.place role)))
      else disk.entryAt? location :=
  Disk.entryAt?_store _ _ _ _ (fits.place_ne_nil role)

theorem entryAt?_erase (role : Role) (location : Location) :
    (disk.erase (layout.place role)).entryAt? location =
      if location = layout.place role then none else disk.entryAt? location :=
  Disk.entryAt?_erase _ _ _ (fits.place_ne_nil role)

theorem store (content : Bytes) (isOpen : layout.IsOpen disk role) :
    layout.Fits artifacts (disk.store (layout.place role) content) := by
  refine fits.change rfl ?_ isOpen ?_
  · intro location isElsewhere
    rw [fits.entryAt?_store, if_neg isElsewhere]
  · intro target
    rw [fits.entryAt?_store, if_pos rfl]
    simp

theorem erase (isOpen : layout.IsOpen disk role) :
    layout.Fits artifacts (disk.erase (layout.place role)) := by
  refine fits.change rfl ?_ isOpen ?_
  · intro location isElsewhere
    rw [fits.entryAt?_erase, if_neg isElsewhere]
  · intro target
    rw [fits.entryAt?_erase, if_pos rfl]
    simp

end Fits

end Layout

/-- No stale file is where this one is. -/
def Layout.IsFresh (layout : Layout) (stale : List Role) (role : Role) : Prop :=
  ∀ other ∈ stale, layout.place role ≠ layout.place other

theorem Layout.isFresh_of_logs (layout : Layout) {logs : List Role} {role : Role}
    (areLogs : ∀ other ∈ logs, other = .errorLog) (isDerived : role ≠ .fixture)
    (isNoLog : role ≠ .errorLog) : layout.IsFresh logs role := by
  intro other member same
  rw [areLogs other member] at same
  exact isNoLog (layout.eq_of_place isDerived (by decide) same)

theorem Layout.ne_generated (layout : Layout) {role other : Role} (isDerived : role ≠ .fixture)
    (isOther : role ≠ .generated) (same : layout.place other = layout.place role) :
    other ≠ .generated := by
  rintro rfl
  exact isOther (layout.eq_of_place (by decide) isDerived same).symm

/-! ### Agreement -/

/-- Two disks on which the files of a fixture are at the same places.  What is seen of them
agrees, but for the stale files: these can be replaced on both, and a file that takes their
place can be executed on both or on neither.  Some files are known to be there. -/
structure Agree (artifacts : Artifacts) (layout : Layout) (Seen : Location → Prop)
    (files stale : List Role) (first second : Disk) : Prop where
  fitsFirst : layout.Fits artifacts first
  fitsSecond : layout.Fits artifacts second
  here : second.here = first.here
  same : ∀ location, Seen location → (∀ role ∈ stale, location ≠ layout.place role) →
    second.entryAt? location = first.entryAt? location
  areOpen : ∀ role ∈ stale, layout.IsOpen first role ∧
    layout.IsOpen second role
  flags : ∀ role ∈ stale, role ≠ .generated →
    second.executableAt (layout.place role) = first.executableAt (layout.place role)
  areFiles : ∀ role ∈ files, ∃ content executable,
    first.entryAt? (layout.place role) = some (.file content executable)

namespace Agree

variable {artifacts : Artifacts} {layout : Layout} {Seen : Location → Prop}
  {files fewer stale rest : List Role} {first second : Disk} {role : Role}

theorem mono (agree : Agree artifacts layout Seen files stale first second)
    (areKnown : ∀ role ∈ fewer, role ∈ files) (isSame : ∀ role, role ∈ stale ↔ role ∈ rest) :
    Agree artifacts layout Seen fewer rest first second where
  fitsFirst := agree.fitsFirst
  fitsSecond := agree.fitsSecond
  here := agree.here
  same location isSeen isFresh :=
    agree.same location isSeen fun role member => isFresh role ((isSame role).mp member)
  areOpen role member := agree.areOpen role ((isSame role).mpr member)
  flags role member := agree.flags role ((isSame role).mpr member)
  areFiles role member := agree.areFiles role (areKnown role member)

/-! ### Single files -/

section Files

variable (agree : Agree artifacts layout Seen files stale first second)

include agree

theorem entry (isSeen : Seen (layout.place role)) (isFresh : layout.IsFresh stale role) :
    second.entryAt? (layout.place role) = first.entryAt? (layout.place role) :=
  agree.same _ isSeen isFresh

theorem read (isSeen : Seen (layout.place role)) (isFresh : layout.IsFresh stale role) :
    second.read (artifacts.path role) = first.read (artifacts.path role) := by
  rw [(agree.fitsFirst.look role).read_eq, (agree.fitsSecond.look role).read_eq,
    agree.entry isSeen isFresh]

theorem isFile (role : Role) (isSeen : Seen (layout.place role))
    (isFresh : layout.IsFresh stale role) :
    second.isFile (artifacts.path role) = first.isFile (artifacts.path role) := by
  rw [(agree.fitsFirst.look role).isFile_eq, (agree.fitsSecond.look role).isFile_eq,
    agree.entry isSeen isFresh]

theorem known_of_read {content : Bytes}
    (isRead : first.read (artifacts.path role) = .ok content) :
    Agree artifacts layout Seen (role :: files) stale first second := by
  refine { agree with areFiles := fun other member => ?_ }
  rcases List.mem_cons.mp member with rfl | member
  · rw [(agree.fitsFirst.look other).read_eq] at isRead
    split at isRead
    · cases isRead
    · rename_i found executable isFile
      exact ⟨found, executable, isFile⟩
    · cases isRead
  · exact agree.areFiles other member

theorem open_or_folder (isSeen : Seen (layout.place role)) :
    (layout.IsOpen first role ∧
        layout.IsOpen second role) ∨
      (first.entryAt? (layout.place role) = some .folder ∧
        second.entryAt? (layout.place role) = some .folder) := by
  unfold Layout.IsOpen
  by_cases isFresh : layout.IsFresh stale role
  · rw [agree.entry isSeen isFresh]
    by_cases isFolder : first.entryAt? (layout.place role) = some .folder
    · exact Or.inr ⟨isFolder, isFolder⟩
    · exact Or.inl ⟨isFolder, isFolder⟩
  · simp only [Layout.IsFresh, not_forall, not_not] at isFresh
    obtain ⟨other, member, same⟩ := isFresh
    rw [same]
    exact Or.inl (agree.areOpen other member)

/-- Unless the stale generated file is there, what is written can be executed on both disks
or on neither. -/
theorem sameFlag (isSeen : Seen (layout.place role))
    (isKnown : ∀ other ∈ stale, layout.place other = layout.place role → other ≠ .generated) :
    second.executableAt (layout.place role) = first.executableAt (layout.place role) := by
  by_cases isFresh : layout.IsFresh stale role
  · exact Disk.executableAt_congr (agree.entry isSeen isFresh)
  · simp only [Layout.IsFresh, not_forall, not_not] at isFresh
    obtain ⟨other, member, same⟩ := isFresh
    rw [same]
    exact agree.flags other member (isKnown other member same.symm)

theorem replace {left right : Disk} {known : List Role}
    (fitsLeft : layout.Fits artifacts left) (fitsRight : layout.Fits artifacts right)
    (here : right.here = left.here)
    (elsewhereLeft : ∀ location, location ≠ layout.place role →
      left.entryAt? location = first.entryAt? location)
    (elsewhereRight : ∀ location, location ≠ layout.place role →
      right.entryAt? location = second.entryAt? location)
    (isSame : right.entryAt? (layout.place role) = left.entryAt? (layout.place role))
    (isOpen : layout.IsOpen left role)
    (areFiles : ∀ other ∈ known, ∃ content executable,
      left.entryAt? (layout.place other) = some (.file content executable)) :
    Agree artifacts layout Seen known (stale.filter (· ≠ role)) left right := by
  have stillStale {other : Role} (member : other ∈ stale.filter (· ≠ role)) : other ∈ stale :=
    (List.mem_filter.mp member).1
  refine
    { fitsFirst := fitsLeft
      fitsSecond := fitsRight
      here
      same := ?_
      areOpen := ?_
      flags := ?_
      areFiles }
  · intro location isSeen isFresh
    by_cases isThere : location = layout.place role
    · rw [isThere, isSame]
    · rw [elsewhereLeft location isThere, elsewhereRight location isThere]
      apply agree.same location isSeen
      intro other member
      by_cases isRole : other = role
      · rw [isRole]
        exact isThere
      · exact isFresh other (List.mem_filter.mpr ⟨member, by simpa using isRole⟩)
  · intro other member
    unfold Layout.IsOpen
    by_cases isThere : layout.place other = layout.place role
    · rw [isThere, isSame]
      exact ⟨isOpen, isOpen⟩
    · rw [elsewhereLeft _ isThere, elsewhereRight _ isThere]
      exact agree.areOpen other (stillStale member)
  · intro other member isOther
    by_cases isThere : layout.place other = layout.place role
    · rw [isThere]
      exact Disk.executableAt_congr isSame
    · rw [Disk.executableAt_congr (elsewhereLeft _ isThere),
        Disk.executableAt_congr (elsewhereRight _ isThere)]
      exact agree.flags other (stillStale member) isOther

theorem store (isSeen : Seen (layout.place role))
    (isKnown : ∀ other ∈ stale, layout.place other = layout.place role → other ≠ .generated)
    (firstOpen : layout.IsOpen first role)
    (secondOpen : layout.IsOpen second role) (content : Bytes) :
    Agree artifacts layout Seen (role :: files) (stale.filter (· ≠ role))
      (first.store (layout.place role) content) (second.store (layout.place role) content) := by
  refine agree.replace (agree.fitsFirst.store content firstOpen)
    (agree.fitsSecond.store content secondOpen) agree.here ?_ ?_ ?_ ?_ ?_
  · intro location isElsewhere
    rw [agree.fitsFirst.entryAt?_store, if_neg isElsewhere]
  · intro location isElsewhere
    rw [agree.fitsSecond.entryAt?_store, if_neg isElsewhere]
  · rw [agree.fitsFirst.entryAt?_store, agree.fitsSecond.entryAt?_store, if_pos rfl, if_pos rfl,
      agree.sameFlag isSeen isKnown]
  · simp [agree.fitsFirst.entryAt?_store]
  · intro other member
    rw [agree.fitsFirst.entryAt?_store]
    by_cases isThere : layout.place other = layout.place role
    · rw [if_pos isThere]
      exact ⟨_, _, rfl⟩
    · rw [if_neg isThere]
      rcases List.mem_cons.mp member with rfl | member
      · exact absurd rfl isThere
      · exact agree.areFiles other member

theorem erase (areOthers : ∀ other ∈ files, layout.place other ≠ layout.place role)
    (firstOpen : layout.IsOpen first role)
    (secondOpen : layout.IsOpen second role) :
    Agree artifacts layout Seen files (stale.filter (· ≠ role))
      (first.erase (layout.place role)) (second.erase (layout.place role)) := by
  refine agree.replace (agree.fitsFirst.erase firstOpen) (agree.fitsSecond.erase secondOpen)
    agree.here ?_ ?_ ?_ ?_ ?_
  · intro location isElsewhere
    rw [agree.fitsFirst.entryAt?_erase, if_neg isElsewhere]
  · intro location isElsewhere
    rw [agree.fitsSecond.entryAt?_erase, if_neg isElsewhere]
  · rw [agree.fitsFirst.entryAt?_erase, agree.fitsSecond.entryAt?_erase, if_pos rfl, if_pos rfl]
  · simp [agree.fitsFirst.entryAt?_erase]
  · intro other member
    rw [agree.fitsFirst.entryAt?_erase, if_neg (areOthers other member)]
    exact agree.areFiles other member

end Files

/-! ### Requests -/

variable (isSeen : Seen (layout.place role))

include isSeen

theorem alike_read (isFresh : layout.IsFresh stale role) :
    Alike (Agree artifacts layout Seen files stale) (readText (artifacts.path role))
      fun _ => Agree artifacts layout Seen files stale :=
  .of_readText fun _ _ agree => agree.read isSeen isFresh

theorem alike_write
    (isKnown : ∀ other ∈ stale, layout.place other = layout.place role → other ≠ .generated)
    (content : Bytes) :
    Alike (Agree artifacts layout Seen files stale) (writeBytes (artifacts.path role) content)
      fun _ => Agree artifacts layout Seen (role :: files) (stale.filter (· ≠ role)) := by
  refine .of_writeBytes fun first second agree => ?_
  rcases agree.open_or_folder isSeen with
    ⟨firstOpen, secondOpen⟩ | ⟨firstFolder, secondFolder⟩
  · exact Or.inl ⟨_, _, (agree.fitsFirst role .write (by simp)).write_open content firstOpen,
      (agree.fitsSecond role .write (by simp)).write_open content secondOpen,
      agree.store isSeen isKnown firstOpen secondOpen content⟩
  · refine Or.inr ⟨.isFolder, ?_, ?_⟩
    · rw [(agree.fitsFirst role .write (by simp)).write_eq, firstFolder]
    · rw [(agree.fitsSecond role .write (by simp)).write_eq, secondFolder]

theorem alike_remove (isDerived : role ≠ .fixture)
    (areOthers : ∀ other ∈ files, layout.place other ≠ layout.place role) :
    Alike (Agree artifacts layout Seen files stale) (removeIfPresent (artifacts.path role))
      fun _ first second =>
        Agree artifacts layout Seen files (stale.filter (· ≠ role)) first second ∧
          first.entryAt? (layout.place role) = none := by
  intro first second agree
  have isWanted (isFixture : role = .fixture) (_ : Disk.Purpose.edit = .edit) := isDerived isFixture
  rw [Artifacts.run_removeIfPresent_at (agree.fitsFirst role .edit isWanted),
    Artifacts.run_removeIfPresent_at (agree.fitsSecond role .edit isWanted)]
  rcases agree.open_or_folder isSeen with
    ⟨firstOpen, secondOpen⟩ | ⟨firstFolder, secondFolder⟩
  · rw [if_neg firstOpen, if_neg secondOpen]
    refine ⟨rfl, fun _ _ => ⟨agree.erase areOthers firstOpen secondOpen, ?_⟩⟩
    rw [agree.fitsFirst.entryAt?_erase, if_pos rfl]
  · rw [if_pos firstFolder, if_pos secondFolder]
    exact ⟨rfl, nofun⟩

end Agree

/-! ### Actions -/

section Actions

variable {artifacts : Artifacts} {layout : Layout} {Seen : Location → Prop}
  {files stale logs : List Role} (sees : ∀ role, Seen (layout.place role))

include sees

/-- A fixture that reads the same is split alike; its sections are stale no longer. -/
theorem Artifacts.split_alike :
    Alike (fun first second => Agree artifacts layout Seen [] stale first second ∧
        second.read artifacts.fixture = first.read artifacts.fixture)
      artifacts.split fun result first second =>
        match result with
        | .written => Agree artifacts layout Seen [.expected, .source]
            ((stale.filter (· ≠ .source)).filter (· ≠ .expected)) first second
        | .malformed _ => Agree artifacts layout Seen [] stale first second := by
  refine (Alike.of_readText fun _ _ related => related.2).bind fun text => ?_
  split
  · rename_i source expected isPair
    refine ((Agree.alike_write (sees .source)
      (fun _ _ same => layout.ne_generated (by decide) (by decide) same) _).weaken
        fun _ _ related => related.1).bind fun _ => ?_
    refine (Agree.alike_write (sees .expected)
      (fun _ _ same => layout.ne_generated (by decide) (by decide) same) _).bind fun _ => ?_
    exact (Alike.of_record _).bind fun _ => .of_pure _ fun _ _ agree => agree
  · exact (Alike.of_record _).bind fun _ => .of_pure _ fun _ _ related => related.1

theorem Artifacts.rebuild_alike (areLogs : ∀ role ∈ logs, role = .errorLog) :
    Alike (Agree artifacts layout Seen files logs) artifacts.rebuild
      fun _ => Agree artifacts layout Seen [] logs := by
  refine (Agree.alike_read (sees .source)
    (layout.isFresh_of_logs areLogs (by decide) (by decide))).bind fun source => ?_
  refine (Agree.alike_read (sees .generated)
    (layout.isFresh_of_logs areLogs (by decide) (by decide))).bind fun generated => ?_
  refine (Agree.alike_write (sees .fixture) (fun other member _ => ?_) _).bind fun _ => ?_
  · rw [areLogs other member]
    decide
  refine (Alike.of_record _).strengthen fun _ _ _ agree => ?_
  refine agree.mono (by simp) fun role => ?_
  simp only [List.mem_filter, decide_eq_true_eq, ne_eq, and_iff_left_iff_imp]
  rintro member rfl
  cases areLogs _ member

theorem removeAll_alike (roles : List Role) (areDerived : ∀ role ∈ roles, role ≠ .fixture) :
    Alike (Agree artifacts layout Seen [] stale)
      ((roles.map artifacts.path).forM removeIfPresent)
      fun _ => Agree artifacts layout Seen [] (stale.filter (· ∉ roles)) := by
  induction roles generalizing stale with
  | nil => exact .of_pure _ fun _ _ agree => agree.mono (by simp) (by simp)
  | cons role rest ih =>
      refine (Agree.alike_remove (sees role) (areDerived role (by simp)) (by simp)).bind
        fun _ => ?_
      refine (ih fun other member => areDerived other (by simp [member])).mono
        (fun _ _ related => related.1) fun _ _ _ agree => agree.mono (by simp) ?_
      intro other
      simp only [List.mem_filter, List.mem_cons, decide_eq_true_eq, not_or, ne_eq]
      tauto

theorem Artifacts.purge_alike (areDerived : ∀ role ∈ stale, role ∈ Role.derived) :
    Alike (Agree artifacts layout Seen files stale) artifacts.purge
      fun _ => Agree artifacts layout Seen [] [] := by
  refine ((removeAll_alike sees Role.derived (by decide)).weaken fun _ _ agree =>
    agree.mono (by simp) fun _ => Iff.rfl).bind fun _ => ?_
  refine (Alike.of_record _).strengthen fun _ _ _ agree => agree.mono (by simp) fun role => ?_
  simp only [List.mem_filter, decide_eq_true_eq, List.not_mem_nil, iff_false, not_and, not_not]
  exact areDerived role

theorem Normalizer.normalizeFile_alike (normalizer : Normalizer)
    (areLogs : ∀ role ∈ logs, role = .errorLog) :
    Alike (Agree artifacts layout Seen files logs)
      (normalizer.normalizeFile (artifacts.path .generated))
      fun _ => Agree artifacts layout Seen (.generated :: files) logs := by
  have isFresh : layout.IsFresh logs .generated :=
    layout.isFresh_of_logs areLogs (by decide) (by decide)
  refine (Alike.of_readBytes fun first second agree =>
    agree.read (sees .generated) isFresh).bind fun raw => ?_
  by_cases isSame : Text.encode (normalizer.normalize (Text.decode raw)) = raw
  · rw [if_pos isSame]
    exact .of_pure _ fun _ _ related => related.1.known_of_read related.2
  · rw [if_neg isSame]
    refine ((Agree.alike_write (sees .generated)
      (fun other member same => absurd same.symm (isFresh other member)) _).weaken
        fun _ _ related => related.1).bind fun _ => ?_
    refine (Alike.of_record _).bind fun _ => .of_pure _ fun _ _ agree => ?_
    refine agree.mono (by simp) fun role => ?_
    simp only [List.mem_filter, decide_eq_true_eq, ne_eq, and_iff_left_iff_imp]
    rintro member rfl
    cases areLogs _ member

end Actions

end FixtureRunner
