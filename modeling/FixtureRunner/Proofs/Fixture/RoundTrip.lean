/-
Rebuilding a fixture and splitting it again.

The delimiter is a run of one character, so it can overlap itself and begin in the source.
The source and the generated text come back exactly if neither holds the delimiter and the
source does not end in the character it is made of.
-/

import FixtureRunner.Proofs.Fixture.Actions
import FixtureRunner.Proofs.Fixture.Sections

namespace FixtureRunner

open FixtureRunner.Action

namespace Artifacts

variable {artifacts : Artifacts} {home : Home} {workspace : Workspace}

variable {source generated : Text}

theorem read_split {disk : Disk} {expected : Text}
    (houses : (home.split disk source expected).Houses artifacts home) :
    (home.split disk source expected).read artifacts.source = .ok (Text.encode source) ∧
      (home.split disk source expected).read artifacts.expected = .ok (Text.encode expected) := by
  constructor
  · apply (houses.read_eq_ok_iff .source _).mpr
    simp [Home.split]
  · apply (houses.read_eq_ok_iff .expected _).mpr
    simp [Home.split]

theorem split_eq_written {divided : Workspace} (houses : workspace.disk.Houses artifacts home)
    (isSplit : artifacts.split.run workspace = (.ok .written, divided)) :
    ∃ text source expected, home.text? workspace.disk .fixture = some text ∧
      Fixture.sections text = [source, expected] ∧
      home.IsOpen workspace.disk .source ∧
      home.IsOpen workspace.disk .expected ∧
      divided.disk = home.split workspace.disk source expected := by
  obtain ⟨result, left, splitting, ends⟩ := split_ends houses
  obtain ⟨isResult, isLeft, _⟩ := ends.eq_of_run isSplit
  subst isResult
  cases splitting with
  | @written text source expected isText isPair sourceOpen expectedOpen =>
      exact ⟨text, source, expected, isText, isPair, sourceOpen, expectedOpen, isLeft⟩

theorem split_assembled_iff (houses : workspace.disk.Houses artifacts home)
    (isText : home.text? workspace.disk .fixture = some (Fixture.assemble source generated))
    (sourceOpen : home.IsOpen workspace.disk .source)
    (expectedOpen : home.IsOpen workspace.disk .expected) :
    (∃ again, artifacts.split.run workspace = (.ok .written, again) ∧
        again.disk.read artifacts.source = .ok (Text.encode source) ∧
        again.disk.read artifacts.expected = .ok (Text.encode ('\n' :: '\n' :: generated))) ↔
      Fixture.IsSource source ∧ ¬ Fixture.delimiter <:+: generated := by
  rw [← Fixture.sections_assemble_iff]
  constructor
  · rintro ⟨again, isSplit, isSource, isExpected⟩
    obtain ⟨text, first, second, isTextAgain, isPair, _, _, isLeft⟩ :=
      split_eq_written houses isSplit
    rw [isText] at isTextAgain
    obtain rfl := Option.some.inj isTextAgain
    rw [isLeft] at isSource isExpected
    obtain ⟨readsFirst, readsSecond⟩ :=
      read_split (houses.split first second sourceOpen expectedOpen)
    have sameSource : first = source :=
      Text.encode_injective (Except.ok.inj (readsFirst.symm.trans isSource))
    have sameExpected : second = '\n' :: '\n' :: generated :=
      Text.encode_injective (Except.ok.inj (readsSecond.symm.trans isExpected))
    rw [isPair, sameSource, sameExpected]
  · intro isPair
    obtain ⟨log, isSplit, _⟩ :=
      split_ends_written houses isText isPair sourceOpen expectedOpen _ rfl
    have reads := read_split (houses.split source ('\n' :: '\n' :: generated) sourceOpen expectedOpen)
    exact ⟨_, isSplit, reads⟩

theorem houses_of_rebuild {path : Path} {content : Bytes} {rebuilt : Workspace}
    (isFixture : path.isFixture = true) (noLinks : (ofFixture path).NoLinks workspace.disk)
    (isSource : workspace.disk.read (ofFixture path).source = .ok content)
    (isRebuilt : (ofFixture path).rebuild.run workspace = (.ok (), rebuilt)) :
    ∃ home, workspace.disk.Houses (ofFixture path) home ∧ home.IsOpen workspace.disk .fixture := by
  obtain ⟨_, _, ranSource, ranRest⟩ := run_bind_eq_ok _ isRebuilt
  obtain ⟨rfl, _⟩ := run_readText_eq_ok _ ranSource
  obtain ⟨_, _, ranGenerated, ranLast⟩ := run_bind_eq_ok _ ranRest
  obtain ⟨rfl, _⟩ := run_readText_eq_ok _ ranGenerated
  obtain ⟨_, _, ranWrite, _⟩ := run_bind_eq_ok _ ranLast
  have isWritten := run_writeBytes_eq_ok _ ranWrite
  obtain ⟨_, _, leads⟩ := Disk.leads_of_write isWritten
  obtain ⟨_, _, sourceLeads⟩ := Disk.leads_of_read isSource
  have isDerived : Role.source ≠ .fixture := by decide
  obtain ⟨home, houses⟩ := Disk.houses_of_leads isFixture leads noLinks isDerived sourceLeads
  exact ⟨home, houses, houses.open_of_write .fixture isWritten⟩

theorem rebuild_then_split (workspace : Workspace) (houses : workspace.disk.Houses artifacts home)
    (isSource : home.text? workspace.disk .source = some source)
    (isGenerated : home.text? workspace.disk .generated = some generated)
    (fixtureOpen : home.IsOpen workspace.disk .fixture)
    (expectedOpen : home.IsOpen workspace.disk .expected) :
    ∃ rebuilt, artifacts.rebuild.run workspace = (.ok (), rebuilt) ∧
      ((∃ again, artifacts.split.run rebuilt = (.ok .written, again) ∧
          again.disk.read artifacts.source = .ok (Text.encode source) ∧
          again.disk.read artifacts.expected = .ok (Text.encode ('\n' :: '\n' :: generated))) ↔
        Fixture.IsSource source ∧ ¬ Fixture.delimiter <:+: generated) := by
  obtain ⟨log, isRebuilt, _⟩ := rebuild_ends houses isSource isGenerated fixtureOpen _ rfl
  refine ⟨_, isRebuilt, split_assembled_iff (houses.store _ fixtureOpen) ?_ ?_ ?_⟩
  · rw [Home.text?_store, if_pos rfl]
  · simpa using Home.open_of_text? isSource
  · simpa using expectedOpen

theorem rebuild_after_split {disk : Disk} {text expected : Text} (workspace : Workspace)
    (isText : home.text? disk .fixture = some text)
    (houses : (home.split disk source expected).Houses artifacts home)
    (isOpen : home.IsOpen (home.split disk source expected) .generated)
    (isGrown : workspace.disk = (home.split disk source expected).store (home.place .generated)
      (Text.encode generated)) :
    ∃ rebuilt, artifacts.rebuild.run workspace = (.ok (), rebuilt) ∧
      ((∃ again, artifacts.split.run rebuilt = (.ok .written, again) ∧
          again.disk.read artifacts.source = .ok (Text.encode source) ∧
          again.disk.read artifacts.expected = .ok (Text.encode ('\n' :: '\n' :: generated))) ↔
        Fixture.IsSource source ∧ ¬ Fixture.delimiter <:+: generated) := by
  have texts (role : Role) : home.text? workspace.disk role =
      if role = .generated then some generated
      else if role = .expected then some expected
      else if role = .source then some source
      else home.text? disk role := by
    rw [isGrown, Home.text?_store, Home.text?_split]
  have grownHouses : workspace.disk.Houses artifacts home := by
    rw [isGrown]
    exact houses.store _ isOpen
  have isFixtureText : home.text? workspace.disk .fixture = some text :=
    (texts .fixture).trans isText
  exact rebuild_then_split workspace grownHouses (texts .source) (texts .generated)
    (Home.open_of_text? isFixtureText) (Home.open_of_text? (texts .expected))

/-- Rebuilding and splitting again.  Where nothing is in the way, the fixture is rebuilt, and
it is split into the source and the generated text below two newlines exactly if neither
holds the delimiter and the source does not end in `=`.  A source that came out of a split
is of this kind, so it comes back whatever text free of the delimiter is generated. -/
theorem split_rebuild_iff {path : Path} (isFixture : path.isFixture = true) :
    (∀ (before : Workspace) (source generated : Text),
      (ofFixture path).NoLinks before.disk →
      (∀ location, before.disk.find (ofFixture path).expected ≠ .ok (location, .folder)) →
      before.disk.read (ofFixture path).source = .ok (Text.encode source) →
      before.disk.read (ofFixture path).generated = .ok (Text.encode generated) →
      (∀ content, before.disk.read path = .ok content →
        ∃ rebuilt, (ofFixture path).rebuild.run before = (.ok (), rebuilt)) ∧
      ∀ rebuilt, (ofFixture path).rebuild.run before = (.ok (), rebuilt) →
        ((∃ again, (ofFixture path).split.run rebuilt = (.ok .written, again) ∧
            again.disk.read (ofFixture path).source = .ok (Text.encode source) ∧
            again.disk.read (ofFixture path).expected =
              .ok (Text.encode ('\n' :: '\n' :: generated))) ↔
          ¬ Fixture.delimiter <:+: source ∧ source.getLast? ≠ some '=' ∧
            ¬ Fixture.delimiter <:+: generated)) ∧
    (∀ before divided : Workspace,
      (ofFixture path).NoLinks before.disk →
      (ofFixture path).split.run before = (.ok .written, divided) →
      ∃ source, divided.disk.read (ofFixture path).source = .ok (Text.encode source) ∧
        ¬ Fixture.delimiter <:+: source ∧ source.getLast? ≠ some '=' ∧
        ∀ (generated : Text) (grown : Disk), ¬ Fixture.delimiter <:+: generated →
          divided.disk.write (ofFixture path).generated (Text.encode generated) = .ok grown →
          ∃ rebuilt again,
            (ofFixture path).rebuild.run { divided with disk := grown } = (.ok (), rebuilt) ∧
            (ofFixture path).split.run rebuilt = (.ok .written, again) ∧
            again.disk.read (ofFixture path).source = .ok (Text.encode source) ∧
            again.disk.read (ofFixture path).expected =
              .ok (Text.encode ('\n' :: '\n' :: generated))) := by
  constructor
  · intro before source generated noLinks isNoFolder isSource isGenerated
    have rebuilds {home : Home} (houses : before.disk.Houses (ofFixture path) home)
        (fixtureOpen : before.disk.entryAt? (home.place .fixture) ≠ some .folder) :=
      rebuild_then_split before houses (houses.text?_of_read .source isSource)
        (houses.text?_of_read .generated isGenerated) fixtureOpen
        (houses.open_of_find .expected isNoFolder)
    constructor
    · intro content isRead
      obtain ⟨_, _, leads⟩ := Disk.leads_of_read isRead
      obtain ⟨_, _, sourceLeads⟩ := Disk.leads_of_read isSource
      have isDerived : Role.source ≠ .fixture := by decide
      obtain ⟨home, houses⟩ := Disk.houses_of_leads isFixture leads noLinks isDerived sourceLeads
      obtain ⟨executable, isFile⟩ := (houses.read_eq_ok_iff .fixture content).mp isRead
      obtain ⟨rebuilt, isRebuilt, _⟩ := rebuilds houses (by simp [isFile])
      exact ⟨rebuilt, isRebuilt⟩
    · intro rebuilt isRebuilt
      obtain ⟨home, houses, fixtureOpen⟩ :=
        houses_of_rebuild isFixture noLinks isSource isRebuilt
      obtain ⟨again, isRebuiltAgain, isExact⟩ := rebuilds houses fixtureOpen
      rw [isRebuilt] at isRebuiltAgain
      obtain rfl := (Prod.mk.inj isRebuiltAgain).2
      rw [isExact, Fixture.IsSource, and_assoc]
  · intro before divided noLinks isSplit
    obtain ⟨home, houses⟩ := houses_of_split isFixture noLinks isSplit
    obtain ⟨text, source, expected, isText, isPair, sourceOpen, expectedOpen, isLeft⟩ :=
      split_eq_written houses isSplit
    have isSource : Fixture.IsSource source := ((Fixture.sections_eq_pair_iff _ _ _).mp isPair).2.1
    have leftHouses := houses.split source expected sourceOpen expectedOpen
    rw [isLeft]
    refine ⟨source, (read_split leftHouses).1, isSource.1, isSource.2, ?_⟩
    intro generated grown isFree isGrown
    have generatedOpen := leftHouses.open_of_write .generated isGrown
    have isStored := leftHouses.write_of_open .generated (Text.encode generated) generatedOpen
    obtain rfl := Except.ok.inj (isGrown.symm.trans isStored)
    obtain ⟨rebuilt, isRebuilt, isExact⟩ :=
      rebuild_after_split { divided with disk := _ } isText leftHouses generatedOpen rfl
    obtain ⟨again, isSplitAgain, readsAgain⟩ := isExact.mpr ⟨isSource, isFree⟩
    exact ⟨rebuilt, again, isRebuilt, isSplitAgain, readsAgain⟩

/-- A folder with a fixture that was split, and with a new text of almost a delimiter. -/
def nearDelimiter : Disk :=
  (((Disk.empty ["work"]).put ["work", "a.tst"]
        (.file (Text.toBytes "x ==\n========\ny\n") false)).put ["work", "a.syp"]
      (.file (Text.toBytes "x ==\n") false)).put ["work", "a.ll"]
    (.file (Text.toBytes "=======\n") false)

theorem split_rebuild_nearDelimiter :
    ∃ rebuilt again,
      (ofFixture ⟨"a.tst"⟩).rebuild.run { disk := nearDelimiter } = (.ok (), rebuilt) ∧
      (ofFixture ⟨"a.tst"⟩).split.run rebuilt = (.ok .written, again) ∧
      again.disk.read (ofFixture ⟨"a.tst"⟩).source = .ok (Text.encode "x ==\n".toList) ∧
      again.disk.read (ofFixture ⟨"a.tst"⟩).expected =
        .ok (Text.encode ('\n' :: '\n' :: "=======\n".toList)) := by
  have noLinks : (ofFixture ⟨"a.tst"⟩).NoLinks nearDelimiter := by
    intro role
    cases role <;> decide +kernel
  have isMissing : nearDelimiter.find (ofFixture ⟨"a.tst"⟩).expected = .error .missing := by
    decide +kernel
  obtain ⟨rebuilds, isExact⟩ := (split_rebuild_iff sampleIsFixture).1 { disk := nearDelimiter }
    "x ==\n".toList "=======\n".toList noLinks (by simp [isMissing]) (by decide +kernel)
    (by decide +kernel)
  obtain ⟨rebuilt, isRebuilt⟩ :=
    rebuilds (Text.toBytes "x ==\n========\ny\n") (by decide +kernel)
  have isFree : ¬ Fixture.delimiter <:+: "x ==\n".toList ∧
      "x ==\n".toList.getLast? ≠ some '=' ∧ ¬ Fixture.delimiter <:+: "=======\n".toList := by
    decide +kernel
  obtain ⟨again, isSplit, reads⟩ := (isExact rebuilt isRebuilt).mpr isFree
  exact ⟨rebuilt, again, isRebuilt, isSplit, reads⟩

end Artifacts

end FixtureRunner
