/-
Splitting, rebuilding, normalizing and purging a housed fixture.

Every action ends in one of a few ways, each with a disk that is known entry by entry.
-/

import FixtureRunner.Proofs.Fixture.Files
import Mathlib.Data.List.Basic

namespace FixtureRunner

open Text (encode decode)

open FixtureRunner.Action

/-- The files that are derived from a fixture, in the order of removal. -/
def Role.derived : List Role :=
  [.source, .generated, .expected, .errorLog]

theorem Role.mem_derived {role : Role} : role ∈ derived ↔ role ≠ .fixture := by
  cases role <;> decide

theorem Artifacts.derived_eq (artifacts : Artifacts) :
    artifacts.derived = Role.derived.map artifacts.path := rfl

theorem Artifacts.mem_derived_iff {artifacts : Artifacts} {path : Path} :
    path ∈ artifacts.derived ↔ ∃ role, role ≠ .fixture ∧ artifacts.path role = path := by
  rw [derived_eq, List.mem_map]
  simp only [Role.mem_derived]

namespace Home

variable (home : Home) (disk : Disk)

def text? (role : Role) : Option Text :=
  match disk.entryAt? (home.place role) with
  | some (.file content _) => some (decode content)
  | _ => none

variable {home disk} {role : Role} {text : Text}

theorem text?_eq_some_iff :
    home.text? disk role = some text ↔
      ∃ content executable,
        disk.entryAt? (home.place role) = some (.file content executable) ∧
          decode content = text := by
  unfold text?
  cases disk.entryAt? (home.place role) with
  | none => simp
  | some entry => cases entry <;> simp

theorem text?_eq_none_iff :
    home.text? disk role = none ↔
      ∀ content executable,
        disk.entryAt? (home.place role) ≠ some (.file content executable) := by
  unfold text?
  cases disk.entryAt? (home.place role) with
  | none => simp
  | some entry => cases entry <;> simp

theorem open_of_text? (isText : home.text? disk role = some text) : home.IsOpen disk role := by
  obtain ⟨content, executable, isFile, _⟩ := text?_eq_some_iff.mp isText
  simp [isFile]

theorem text?_of_file (isFile : ∃ executable, disk.entryAt? (home.place role) =
    some (.file (encode text) executable)) : home.text? disk role = some text := by
  obtain ⟨executable, isFile⟩ := isFile
  exact text?_eq_some_iff.mpr ⟨_, executable, isFile, Text.decode_encode text⟩

theorem text?_of_entry {after : Disk}
    (same : after.entryAt? (home.place role) = disk.entryAt? (home.place role)) :
    home.text? after role = home.text? disk role := by
  rw [text?, text?, same]

theorem sections_unique {other source expected first second : Text}
    (isText : home.text? disk .fixture = some text)
    (isPair : Fixture.sections text = [source, expected])
    (isOther : home.text? disk .fixture = some other)
    (isOtherPair : Fixture.sections other = [first, second]) :
    first = source ∧ second = expected := by
  obtain rfl := Option.some.inj (isText.symm.trans isOther)
  rw [isPair] at isOtherPair
  obtain ⟨isFirst, rest⟩ := List.cons.inj isOtherPair
  exact ⟨isFirst.symm, (List.cons.inj rest).1.symm⟩

theorem text?_store (home : Home) (disk : Disk) (role other : Role) (text : Text) :
    home.text? (disk.store (home.place role) (encode text)) other =
      if other = role then some text else home.text? disk other := by
  rw [text?, text?, entryAt?_store]
  by_cases isSame : other = role
  · simp [isSame]
  · simp [isSame]

theorem store_open {other : Role} (content : Bytes) (isOpen : home.IsOpen disk other) :
    home.IsOpen (disk.store (home.place role) content) other := by
  rw [IsOpen, entryAt?_store]
  by_cases isSame : other = role
  · simp [isSame]
  · simpa [isSame] using isOpen

theorem erase_open {other : Role} (isOpen : home.IsOpen disk other) :
    home.IsOpen (disk.erase (home.place role)) other := by
  rw [IsOpen, entryAt?_erase]
  by_cases isSame : other = role
  · simp [isSame]
  · simpa [isSame] using isOpen

variable (home disk)

def split (source expected : Text) : Disk :=
  (disk.store (home.place .source) (encode source)).store (home.place .expected)
    (encode expected)

theorem text?_split (source expected : Text) (role : Role) :
    home.text? (home.split disk source expected) role =
      if role = .expected then some expected
      else if role = .source then some source
      else home.text? disk role := by
  rw [split, text?_store, text?_store]

def clear (roles : List Role) : Disk :=
  roles.foldl (fun held role => held.erase (home.place role)) disk

@[simp] theorem clear_nil : home.clear disk [] = disk := rfl

@[simp] theorem clear_cons (role : Role) (rest : List Role) :
    home.clear disk (role :: rest) = home.clear (disk.erase (home.place role)) rest := rfl

theorem entryAt?_clear (roles : List Role) (other : Role) :
    (home.clear disk roles).entryAt? (home.place other) =
      if other ∈ roles then none else disk.entryAt? (home.place other) := by
  induction roles generalizing disk with
  | nil => simp
  | cons role rest ih =>
      rw [clear_cons, ih, entryAt?_erase]
      by_cases isRest : other ∈ rest
      · simp [isRest]
      · by_cases isSame : other = role
        · simp [isSame]
        · simp [isRest, isSame]

theorem clear_open {home : Home} {disk : Disk} {roles : List Role} {other : Role}
    (isOpen : home.IsOpen disk other) : home.IsOpen (home.clear disk roles) other := by
  rw [IsOpen, entryAt?_clear]
  by_cases member : other ∈ roles
  · simp [member]
  · simpa [member] using isOpen

theorem touches_clear (roles : List Role) : home.Touches roles disk (home.clear disk roles) := by
  induction roles generalizing disk with
  | nil => exact .refl home [] disk
  | cons role rest ih =>
      have erased : home.Touches (role :: rest) disk (disk.erase (home.place role)) :=
        (Touches.erase home disk role).mono (by simp)
      exact erased.trans ((ih _).mono (by simp +contextual))

theorem touches_split (source expected : Text) :
    home.Touches [.source, .expected] disk (home.split disk source expected) := by
  have first : home.Touches [.source, .expected] disk
      (disk.store (home.place .source) (encode source)) :=
    (Touches.store home disk .source _).mono (by simp)
  exact first.trans ((Touches.store home _ .expected _).mono (by simp))

end Home

namespace Disk.Houses

variable {disk : Disk} {artifacts : Artifacts} {home : Home}
  (houses : disk.Houses artifacts home)

include houses

theorem split (source expected : Text) (sourceOpen : home.IsOpen disk .source)
    (expectedOpen : home.IsOpen disk .expected) :
    (home.split disk source expected).Houses artifacts home :=
  (houses.store _ sourceOpen).store _ (Home.store_open _ expectedOpen)

theorem clear {roles : List Role} (areOpen : ∀ role ∈ roles, home.IsOpen disk role) :
    (home.clear disk roles).Houses artifacts home := by
  refine houses.touch (home.touches_clear disk roles) areOpen ?_
  intro role member target
  rw [Home.entryAt?_clear, if_pos member]
  exact nofun

theorem isFile_eq (role : Role) :
    disk.isFile (artifacts.path role) = (home.text? disk role).isSome := by
  rw [Bool.eq_iff_iff, houses.isFile_iff role, Option.isSome_iff_exists]
  simp [Home.text?_eq_some_iff]

theorem text?_iff (role : Role) (text : Text) :
    home.text? disk role = some text ↔
      ∃ content, disk.read (artifacts.path role) = .ok content ∧ decode content = text := by
  simp only [Home.text?_eq_some_iff, houses.read_eq_ok_iff]
  constructor
  · rintro ⟨content, executable, isFile, isText⟩
    exact ⟨content, ⟨executable, isFile⟩, isText⟩
  · rintro ⟨content, ⟨executable, isFile⟩, isText⟩
    exact ⟨content, executable, isFile, isText⟩

theorem text?_of_read (role : Role) {text : Text}
    (isRead : disk.read (artifacts.path role) = .ok (encode text)) :
    home.text? disk role = some text :=
  (houses.text?_iff role text).mpr ⟨_, isRead, Text.decode_encode text⟩

end Disk.Houses

namespace Artifacts

variable {artifacts : Artifacts} {home : Home} {workspace divided : Workspace}
  {disk left : Disk} {content : Bytes} {source expected text generated : Text}

theorem ends_read {role : Role} (houses : disk.Houses artifacts home)
    (isText : home.text? disk role = some text) :
    (readText (artifacts.path role)).Ends disk (.ok text) disk [] := by
  obtain ⟨content, isRead, rfl⟩ := (houses.text?_iff role text).mp isText
  exact ends_readText isRead

theorem ends_read_error {role : Role} (houses : disk.Houses artifacts home)
    (isNoFile : home.text? disk role = none) :
    ∃ failure, (readText (artifacts.path role)).Ends disk (.error failure) disk [] := by
  cases isRead : disk.read (artifacts.path role) with
  | error cause => exact ⟨_, ends_readText_error isRead⟩
  | ok content =>
      have isText := (houses.text?_iff role _).mpr ⟨content, isRead, rfl⟩
      rw [isNoFile] at isText
      cases isText

/-! ### Splitting -/

private theorem isOther_event (artifacts : Artifacts) (message : String)
    (fields : List (String × Log.Value)) :
    (artifacts.event message fields).startedCommand? = none := by
  simp [Log.Event.startedCommand?, event]

/-- A fixture with two sections is split if both can be written, wherever they are written. -/
theorem split_ends_of_writes {between : Disk} (isRead : disk.read artifacts.fixture = .ok content)
    (isPair : Fixture.sections (decode content) = [source, expected])
    (isSource : disk.write artifacts.source (encode source) = .ok between)
    (isExpected : between.write artifacts.expected (encode expected) = .ok left) :
    artifacts.split.Ends disk (.ok .written) left [] := by
  refine (ends_readText isRead).bind_later ?_
  rw [isPair]
  refine (ends_writeBytes isSource).bind_later ?_
  refine (ends_writeBytes isExpected).bind_later ?_
  exact (ends_record (isOther_event artifacts _ _)).bind_later (ends_pure _)

theorem split_ends_written (houses : disk.Houses artifacts home)
    (isText : home.text? disk .fixture = some text)
    (isPair : Fixture.sections text = [source, expected])
    (sourceOpen : home.IsOpen disk .source) (expectedOpen : home.IsOpen disk .expected) :
    artifacts.split.Ends disk (.ok .written) (home.split disk source expected) [] := by
  obtain ⟨content, isRead, rfl⟩ := (houses.text?_iff .fixture text).mp isText
  exact split_ends_of_writes isRead isPair (houses.write_of_open .source _ sourceOpen)
    ((houses.store _ sourceOpen).write_of_open .expected _ (Home.store_open _ expectedOpen))

variable {result : Split}

/-- Both sections of a fixture are written, first the source and then the expectation. -/
theorem writes_of_split (isRead : workspace.disk.read artifacts.fixture = .ok content)
    (isPair : Fixture.sections (decode content) = [source, expected])
    (isSplit : artifacts.split.run workspace = (.ok result, divided)) :
    result = .written ∧
      ∃ between, workspace.disk.write artifacts.source (encode source) = .ok between ∧
        between.write artifacts.expected (encode expected) = .ok divided.disk := by
  obtain ⟨text, _, ranRead, ranRest⟩ := run_bind_eq_ok _ isSplit
  obtain ⟨rfl, again, isReadAgain, rfl⟩ := run_readText_eq_ok _ ranRead
  obtain rfl := Except.ok.inj (isRead.symm.trans isReadAgain)
  rw [isPair] at ranRest
  obtain ⟨_, afterSource, ranSource, ranRest⟩ := run_bind_eq_ok _ ranRest
  obtain ⟨_, afterExpected, ranExpected, ranRest⟩ := run_bind_eq_ok _ ranRest
  obtain ⟨_, afterRecord, ranRecord, ranRest⟩ := run_bind_eq_ok _ ranRest
  have isSource := run_writeBytes_eq_ok _ ranSource
  have isExpected := run_writeBytes_eq_ok _ ranExpected
  rw [run_record] at ranRecord
  rw [run_pure] at ranRest
  obtain ⟨_, rfl⟩ := Prod.mk.inj ranRecord
  obtain ⟨isResult, rfl⟩ := Prod.mk.inj ranRest
  exact ⟨(Except.ok.inj isResult).symm, afterSource.disk, isSource, isExpected⟩

theorem split_unreadable {cause : SystemError}
    (isUnread : workspace.disk.read artifacts.fixture = .error cause) :
    artifacts.split.run workspace = (.error (.access artifacts.fixture cause), workspace) := by
  have ranRead : (readText artifacts.fixture).run workspace =
      (.error (.access artifacts.fixture cause), workspace) := by
    rw [run_readText, isUnread]
  exact run_bind_error workspace _ ranRead

theorem split_unwritable {cause : SystemError}
    (isRead : workspace.disk.read artifacts.fixture = .ok content)
    (isPair : Fixture.sections (decode content) = [source, expected])
    (isUnwritten : workspace.disk.write artifacts.source (encode source) = .error cause) :
    artifacts.split.run workspace = (.error (.access artifacts.source cause), workspace) := by
  have ranRead : (readText artifacts.fixture).run workspace = (.ok (decode content), workspace) := by
    rw [run_readText, isRead]
  have ranWrite : (writeText artifacts.source source).run workspace =
      (.error (.access artifacts.source cause), workspace) := by
    rw [writeText, run_writeBytes, isUnwritten]
  rw [split, run_bind_ok workspace _ ranRead, isPair]
  exact run_bind_error workspace _ ranWrite

/-- A fixture with another number of sections is only read, wherever its other paths lead. -/
theorem split_ends_malformed (isRead : disk.read artifacts.fixture = .ok content)
    (isNoPair : (Fixture.sections (decode content)).length ≠ 2) :
    artifacts.split.Ends disk (.ok (.malformed (Fixture.sections (decode content)).length))
      disk [] := by
  refine (ends_readText isRead).bind_later ?_
  split
  · rename_i source expected isPair
    rw [isPair] at isNoPair
    exact absurd rfl isNoPair
  · exact (ends_record (isOther_event artifacts _ _)).bind_later (ends_pure _)

/-- How splitting fails, with the disk it leaves. -/
inductive SplitFails (home : Home) (before : Disk) : Disk → Prop
  | unreadable (isNoFile : home.text? before .fixture = none) : SplitFails home before before
  | sourceBlocked {text source expected : Text}
      (isText : home.text? before .fixture = some text)
      (isPair : Fixture.sections text = [source, expected])
      (isFolder : before.entryAt? (home.place .source) = some .folder) :
      SplitFails home before before
  /-- The source is already written. -/
  | expectedBlocked {text source expected : Text}
      (isText : home.text? before .fixture = some text)
      (isPair : Fixture.sections text = [source, expected])
      (isOpen : before.entryAt? (home.place .source) ≠ some .folder)
      (isFolder : before.entryAt? (home.place .expected) = some .folder) :
      SplitFails home before (before.store (home.place .source) (encode source))

/-- A folder in the place of the expectation is noticed when the source is already written. -/
theorem split_ends_expectedBlocked (houses : disk.Houses artifacts home)
    (isText : home.text? disk .fixture = some text)
    (isPair : Fixture.sections text = [source, expected]) (isOpen : home.IsOpen disk .source)
    (isFolder : disk.entryAt? (home.place .expected) = some .folder) :
    artifacts.split.Ends disk (.error (.access artifacts.expected .isFolder))
      (disk.store (home.place .source) (encode source)) [] := by
  refine (ends_read houses isText).bind_later ?_
  rw [isPair]
  refine (ends_write houses _ isOpen).bind_later ?_
  have folderStill : (disk.store (home.place .source) (encode source)).entryAt?
      (home.place .expected) = some .folder := by
    simpa using isFolder
  exact (ends_write_folder (houses.store _ isOpen) _ folderStill).bind_error

theorem split_ends_failed (houses : disk.Houses artifacts home)
    (fails : SplitFails home disk left) :
    ∃ failure, artifacts.split.Ends disk (.error failure) left [] := by
  cases fails with
  | unreadable isNoFile =>
      obtain ⟨failure, ends⟩ := ends_read_error houses isNoFile
      exact ⟨failure, ends.bind_error⟩
  | sourceBlocked isText isPair isFolder =>
      refine ⟨.access artifacts.source .isFolder, (ends_read houses isText).bind_later ?_⟩
      rw [isPair]
      exact (ends_write_folder houses _ isFolder).bind_error
  | expectedBlocked isText isPair isOpen isFolder =>
      exact ⟨_, split_ends_expectedBlocked houses isText isPair isOpen isFolder⟩

theorem SplitFails.houses (houses : disk.Houses artifacts home)
    (fails : SplitFails home disk left) : left.Houses artifacts home := by
  cases fails with
  | unreadable isNoFile => exact houses
  | sourceBlocked isText isPair isFolder => exact houses
  | expectedBlocked isText isPair isOpen isFolder => exact houses.store _ isOpen

theorem SplitFails.touches (fails : SplitFails home disk left) :
    home.Touches [.source] disk left := by
  cases fails with
  | unreadable isNoFile => exact .refl home _ disk
  | sourceBlocked isText isPair isFolder => exact .refl home _ disk
  | expectedBlocked isText isPair isOpen isFolder => exact .store home disk .source _

inductive Splitting (home : Home) (before : Disk) : Except Failure Split → Disk → Prop
  | written {text source expected : Text} (isText : home.text? before .fixture = some text)
      (isPair : Fixture.sections text = [source, expected])
      (sourceOpen : before.entryAt? (home.place .source) ≠ some .folder)
      (expectedOpen : before.entryAt? (home.place .expected) ≠ some .folder) :
      Splitting home before (.ok .written) (home.split before source expected)
  | malformed {text : Text} (isText : home.text? before .fixture = some text)
      (isNoPair : (Fixture.sections text).length ≠ 2) :
      Splitting home before (.ok (.malformed (Fixture.sections text).length)) before
  | failed {failure : Failure} {left : Disk} (fails : SplitFails home before left) :
      Splitting home before (.error failure) left

theorem split_ends (houses : disk.Houses artifacts home) :
    ∃ result left, Splitting home disk result left ∧ artifacts.split.Ends disk result left [] := by
  have failed (left : Disk) (fails : SplitFails home disk left) :
      ∃ result left, Splitting home disk result left ∧
        artifacts.split.Ends disk result left [] := by
    obtain ⟨failure, stops⟩ := split_ends_failed houses fails
    exact ⟨.error failure, left, .failed fails, stops⟩
  cases isText : home.text? disk .fixture with
  | none => exact failed _ (.unreadable isText)
  | some text =>
      by_cases isPair : (Fixture.sections text).length = 2
      · obtain ⟨source, expected, isPair⟩ := List.length_eq_two.mp isPair
        by_cases sourceFolder : disk.entryAt? (home.place .source) = some .folder
        · exact failed _ (.sourceBlocked isText isPair sourceFolder)
        by_cases expectedFolder : disk.entryAt? (home.place .expected) = some .folder
        · exact failed _ (.expectedBlocked isText isPair sourceFolder expectedFolder)
        exact ⟨_, _, .written isText isPair sourceFolder expectedFolder,
          split_ends_written houses isText isPair sourceFolder expectedFolder⟩
      · have isMalformed := Splitting.malformed isText isPair
        obtain ⟨content, isRead, rfl⟩ := (houses.text?_iff .fixture text).mp isText
        exact ⟨_, _, isMalformed, split_ends_malformed isRead isPair⟩

theorem houses_of_pair {path : Path} (isFixture : path.isFixture = true)
    (noLinks : (ofFixture path).NoLinks workspace.disk)
    (isRead : workspace.disk.read path = .ok content)
    (isPair : Fixture.sections (decode content) = [source, expected])
    (isSplit : (ofFixture path).split.run workspace = (.ok result, divided)) :
    ∃ home, workspace.disk.Houses (ofFixture path) home := by
  have isReadFixture : workspace.disk.read (ofFixture path).fixture = .ok content := isRead
  obtain ⟨_, _, isWritten, _⟩ := writes_of_split isReadFixture isPair isSplit
  obtain ⟨_, _, leads⟩ := Disk.leads_of_read isRead
  obtain ⟨_, _, sourceLeads⟩ := Disk.leads_of_write isWritten
  have isDerived : Role.source ≠ .fixture := by decide
  exact Disk.houses_of_leads isFixture leads noLinks isDerived sourceLeads

theorem split_reads (isSplit : artifacts.split.run workspace = (.ok result, divided)) :
    ∃ content, workspace.disk.read artifacts.fixture = .ok content := by
  obtain ⟨_, _, ranRead, _⟩ := run_bind_eq_ok _ isSplit
  obtain ⟨_, content, isRead, _⟩ := run_readText_eq_ok _ ranRead
  exact ⟨content, isRead⟩

theorem houses_of_split {path : Path} (isFixture : path.isFixture = true)
    (noLinks : (ofFixture path).NoLinks workspace.disk)
    (isSplit : (ofFixture path).split.run workspace = (.ok .written, divided)) :
    ∃ home, workspace.disk.Houses (ofFixture path) home := by
  obtain ⟨content, isRead⟩ := split_reads isSplit
  by_cases isPair : (Fixture.sections (decode content)).length = 2
  · obtain ⟨source, expected, isPair⟩ := List.length_eq_two.mp isPair
    exact houses_of_pair isFixture noLinks isRead isPair isSplit
  · cases ((split_ends_malformed isRead isPair).eq_of_run isSplit).1

/-! ### Rebuilding -/

section Housed

variable (houses : disk.Houses artifacts home)

include houses

theorem rebuild_ends (isSource : home.text? disk .source = some source)
    (isGenerated : home.text? disk .generated = some generated)
    (isOpen : home.IsOpen disk .fixture) :
    artifacts.rebuild.Ends disk (.ok ())
      (disk.store (home.place .fixture) (encode (Fixture.assemble source generated))) [] := by
  refine (ends_read houses isSource).bind_later ?_
  refine (ends_read houses isGenerated).bind_later ?_
  exact (ends_write houses _ isOpen).bind_later (ends_record (isOther_event artifacts _ _))

theorem rebuild_ends_unreadable (isSource : home.text? disk .source = some source)
    (isNoFile : home.text? disk .generated = none) :
    ∃ failure, artifacts.rebuild.Ends disk (.error failure) disk [] := by
  obtain ⟨failure, ends⟩ := ends_read_error houses isNoFile
  exact ⟨failure, (ends_read houses isSource).bind_later ends.bind_error⟩

/-! ### Purging -/

theorem remove_ends (roles : List Role) (areOpen : ∀ role ∈ roles, home.IsOpen disk role) :
    ((roles.map artifacts.path).forM removeIfPresent).Ends disk (.ok ())
      (home.clear disk roles) [] := by
  induction roles generalizing disk with
  | nil => exact ends_pure ()
  | cons role rest ih =>
      have isOpen := areOpen role (by simp)
      refine (ends_remove houses isOpen).bind_later (ih (houses.erase isOpen) ?_)
      exact fun other member => Home.erase_open (areOpen other (by simp [member]))

theorem remove_ends_blocked (removed rest : List Role) {blocked : Role}
    (areOpen : ∀ role ∈ removed, home.IsOpen disk role)
    (isFolder : disk.entryAt? (home.place blocked) = some .folder) :
    (((removed ++ blocked :: rest).map artifacts.path).forM removeIfPresent).Ends disk
      (.error (.access (artifacts.path blocked) .isFolder)) (home.clear disk removed) [] := by
  induction removed generalizing disk with
  | nil => exact (ends_remove_folder houses isFolder).bind_error
  | cons role removed ih =>
      have isOpen := areOpen role (by simp)
      have isOther : blocked ≠ role := by
        rintro rfl
        exact isOpen isFolder
      refine (ends_remove houses isOpen).bind_later (ih (houses.erase isOpen) ?_ ?_)
      · exact fun other member => Home.erase_open (areOpen other (by simp [member]))
      · rw [Home.entryAt?_erase, if_neg isOther, isFolder]

theorem purge_ends (areOpen : ∀ role ∈ Role.derived, home.IsOpen disk role) :
    artifacts.purge.Ends disk (.ok ()) (home.clear disk Role.derived) [] :=
  (remove_ends houses Role.derived areOpen).bind_later (ends_record (isOther_event artifacts _ _))

theorem purge_ends_blocked {removed rest : List Role} {blocked : Role}
    (isCut : Role.derived = removed ++ blocked :: rest)
    (areOpen : ∀ role ∈ removed, home.IsOpen disk role)
    (isFolder : disk.entryAt? (home.place blocked) = some .folder) :
    artifacts.purge.Ends disk (.error (.access (artifacts.path blocked) .isFolder))
      (home.clear disk removed) [] := by
  have stops := remove_ends_blocked houses removed rest areOpen isFolder
  rw [← isCut] at stops
  exact stops.bind_error

end Housed

end Artifacts

/-! ### Normalizing -/

namespace Normalizer

variable (normalizer : Normalizer) {workspace : Workspace} {disk : Disk} {path : Path}
  {content : Bytes}

theorem run_normalizeFile_same (isRead : workspace.disk.read path = .ok content)
    (isSame : encode (normalizer.normalize (decode content)) = content) :
    (normalizer.normalizeFile path).run workspace = (.ok false, workspace) := by
  have ranRead : (readBytes path).run workspace = (.ok content, workspace) := by
    rw [run_readBytes, isRead]
  rw [normalizeFile, run_bind_ok _ _ ranRead, if_pos isSame, run_pure]

theorem normalizeFile_ends_changed {left : Disk} (isRead : disk.read path = .ok content)
    (isOther : encode (normalizer.normalize (decode content)) ≠ content)
    (isWritten : disk.write path (encode (normalizer.normalize (decode content))) =
      .ok left) :
    (normalizer.normalizeFile path).Ends disk (.ok true) left [] := by
  refine (ends_readBytes isRead).bind_later ?_
  rw [if_neg isOther]
  refine (ends_writeBytes isWritten).bind_later ?_
  exact (ends_record (by simp [Log.Event.startedCommand?])).bind_later (ends_pure true)

/-- A file is normalized in place; nothing is written if it is normalized already. -/
theorem normalizeFile_ends {artifacts : Artifacts} {home : Home} {role : Role} {raw : Text}
    (houses : disk.Houses artifacts home) (isRaw : home.text? disk role = some raw) :
    ∃ changed, (normalizer.normalizeFile (artifacts.path role)).Ends disk (.ok changed)
      (disk.store (home.place role) (encode (normalizer.normalize raw))) [] := by
  obtain ⟨content, executable, isFile, rfl⟩ := Home.text?_eq_some_iff.mp isRaw
  have isRead := houses.read_of_entry role isFile
  by_cases isSame : encode (normalizer.normalize (decode content)) = content
  · refine ⟨false, ends_of_run ?_⟩
    rintro workspace rfl
    rw [isSame, Disk.store_eq_self (home.place_ne_nil role) isFile]
    exact normalizer.run_normalizeFile_same isRead isSame
  · exact ⟨true, normalizer.normalizeFile_ends_changed isRead isSame
      (houses.write_of_open role _ (Home.open_of_text? isRaw))⟩

end Normalizer

end FixtureRunner
