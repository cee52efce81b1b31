/-
Counting the sections of a fixture by its bars.

A bar is a maximal run of the character that the delimiter is made of.  Cutting never looks
past the end of a bar, and takes the delimiter out of it as often as it fits.  So a fixture has
two sections exactly if one bar holds the delimiter once and no other bar holds it; what is
left of that bar opens the expectation.
-/

import FixtureRunner.Proofs.Fixture.RoundTrip

namespace FixtureRunner

namespace Fixture

/-- The maximal runs of `=` in a text, from left to right. -/
def bars (text : Text) : List Text :=
  (text.splitOnP (· != '=')).filter (· != [])

/-- Between `front` and `back` stands a run of `=` that neither of them continues. -/
structure IsBar (front bar back : Text) : Prop where
  isNonempty : bar ≠ []
  isRun : ∀ char ∈ bar, char = '='
  isFirst : front.getLast? ≠ some '='
  isLast : back.head? ≠ some '='

/-- How often the delimiter fits into some bars. -/
def cutsIn : List Text → Nat
  | [] => 0
  | bar :: rest => bar.length / 8 + cutsIn rest

/-- How many sections there are if every bar is cut as often as the delimiter fits into it. -/
def sectionCount (text : Text) : Nat :=
  1 + cutsIn (bars text)

/-- One bar holds the delimiter once, and no other bar holds it. -/
structure IsOnlyLong (front bar back : Text) : Prop extends IsBar front bar back where
  isLong : 8 ≤ bar.length
  isSingle : bar.length ≤ 15
  areShort : ∀ other ∈ bars front ++ bars back, other.length < 8

/-! ### Bars -/

variable {char : Char}

theorem bars_append_cons (front back : Text) (isOther : char ≠ '=') :
    bars (front ++ char :: back) = bars front ++ bars back := by
  unfold bars
  rw [List.splitOnP_append_cons front back (by simpa using isOther), List.filter_append]

@[simp] theorem bars_nil : bars [] = [] := rfl

theorem bars_run {bar : Text} (isNonempty : bar ≠ []) (isRun : ∀ char ∈ bar, char = '=') :
    bars bar = [bar] := by
  rw [bars, List.splitOnP_eq_singleton fun char member => by simp [isRun char member]]
  simp [isNonempty]

theorem bars_append_of_head? (front : Text) {back : Text}
    (isBroken : back.head? ≠ some '=') : bars (front ++ back) = bars front ++ bars back := by
  cases back with
  | nil => simp
  | cons first others =>
      have isOther : first ≠ '=' := by simpa using isBroken
      rw [bars_append_cons front others isOther, ← List.nil_append (first :: others),
        bars_append_cons [] others isOther, bars_nil, List.nil_append]

theorem starts_with_run (text : Text) :
    ∃ count rest, text = List.replicate count '=' ++ rest ∧ rest.head? ≠ some '=' := by
  induction text with
  | nil => exact ⟨0, [], rfl, by simp⟩
  | cons first others ih =>
      by_cases isRun : first = '='
      · obtain ⟨count, rest, rfl, isBroken⟩ := ih
        exact ⟨count + 1, rest, by rw [isRun, List.replicate_succ, List.cons_append], isBroken⟩
      · exact ⟨0, first :: others, rfl, by simpa using isRun⟩

/-! ### Counting sections -/

theorem cutsIn_append (first second : List Text) :
    cutsIn (first ++ second) = cutsIn first + cutsIn second := by
  induction first with
  | nil => exact (Nat.zero_add _).symm
  | cons bar rest ih => rw [List.cons_append, cutsIn, cutsIn, ih, Nat.add_assoc]

theorem cutsIn_pos_iff {held : List Text} : 0 < cutsIn held ↔ ∃ bar ∈ held, 8 ≤ bar.length := by
  induction held with
  | nil => simp [cutsIn]
  | cons bar rest ih =>
      rw [List.exists_mem_cons_iff, ← ih, cutsIn]
      omega

theorem delimiter_infix_replicate_iff (count : Nat) :
    delimiter <:+: List.replicate count '=' ↔ 8 ≤ count := by
  rw [delimiter_eq_replicate]
  constructor
  · intro isPresent
    simpa using isPresent.length_le
  · intro isLong
    refine ⟨[], List.replicate (count - 8) '=', ?_⟩
    rw [List.nil_append, List.replicate_append_replicate, Nat.add_sub_cancel' isLong]

theorem length_sections_replicate (count : Nat) :
    (sections (List.replicate count '=')).length = 1 + count / 8 := by
  induction count using Nat.strongRecOn with
  | ind count ih =>
      by_cases isShort : count < 8
      · have isAbsent : ¬ delimiter <:+: List.replicate count '=' := by
          rw [delimiter_infix_replicate_iff]
          omega
        rw [sections, cut_eq_singleton _ _ isAbsent, Nat.div_eq_of_lt isShort]
        rfl
      · have same : List.replicate count '=' = delimiter ++ List.replicate (count - 8) '=' := by
          rw [delimiter_eq_replicate, List.replicate_append_replicate]
          congr 1
          omega
        have pieces : sections (delimiter ++ List.replicate (count - 8) '=') =
            [] :: sections (List.replicate (count - 8) '=') :=
          cutFrom_delimiter delimiter _ delimiter_ne_nil
        rw [same, pieces, List.length_cons, ih (count - 8) (by omega)]
        omega

/-- No occurrence of the delimiter reaches past another character. -/
theorem startsNoneIn_concat {front : Text} (back : Text) (isOther : char ≠ '=')
    (isAbsent : ¬ delimiter <:+: front) : StartsNoneIn delimiter (front ++ [char]) back := by
  intro skipped tail same isTail starts
  have isSuffix : tail <:+ front ++ [char] := ⟨skipped, same.symm⟩
  obtain isNil | ⟨others, rfl, isSuffixOfFront⟩ := List.suffix_concat_iff.mp isSuffix
  · exact isTail isNil
  · by_cases isLong : delimiter.length ≤ others.length
    · rw [List.append_assoc] at starts
      have startsOthers : delimiter <+: others :=
        List.prefix_of_prefix_length_le starts (List.prefix_append _ _) isLong
      exact isAbsent (startsOthers.isInfix.trans isSuffixOfFront.isInfix)
    · have isWithin : others ++ [char] <+: delimiter := by
        refine List.prefix_of_prefix_length_le (List.prefix_append _ _) starts ?_
        rw [List.length_append, List.length_singleton]
        omega
      have member : char ∈ List.replicate 8 '=' := by
        rw [← delimiter_eq_replicate]
        exact isWithin.subset (by simp)
      exact isOther (List.eq_of_mem_replicate member)

/-- The sections on both sides of another character are counted apart; the last one before it
and the first one behind it are the same. -/
theorem length_sections_append_cons (front back : Text) (isOther : char ≠ '=') :
    (sections (front ++ char :: back)).length + 1 =
      (sections front).length + (sections back).length := by
  -- Each cut in `front` leaves a shorter text in front of the character.
  induction size : front.length using Nat.strongRecOn generalizing front with
  | ind size ih =>
      rcases cut_cases delimiter front delimiter_ne_nil with
        ⟨whole, isAbsent⟩ | ⟨source, rest, rfl, isLeftmost, pieces⟩
      · have joined := cut_append delimiter _ back (startsNoneIn_concat back isOther isAbsent)
        rw [List.append_assoc, List.singleton_append] at joined
        rw [sections, joined, List.length_modifyHead, sections, whole, List.length_singleton,
          Nat.add_comm]
        rfl
      · have isLeftmostStill : StartsNoneIn delimiter source (delimiter ++ (rest ++ char :: back)) := by
          rw [startsNoneIn_delimiter_iff] at isLeftmost ⊢
          exact isLeftmost
        have later := ih rest.length (by simp [← size, delimiter_eq_replicate]; omega) rest rfl
        rw [List.append_assoc, List.append_assoc, sections,
          cut_append_delimiter _ _ _ delimiter_ne_nil isLeftmostStill, List.length_cons]
        rw [sections, pieces, List.length_cons]
        unfold sections at later ⊢
        omega

theorem length_sections (text : Text) : (sections text).length = sectionCount text := by
  induction size : text.length using Nat.strongRecOn generalizing text with
  | ind size ih =>
      obtain ⟨count, rest, rfl, isBroken⟩ := starts_with_run text
      have ofRun : 1 + count / 8 = sectionCount (List.replicate count '=') := by
        cases count with
        | zero => rfl
        | succ count =>
            rw [sectionCount, bars_run (by simp) (by simp), cutsIn, cutsIn, List.length_replicate]
            rfl
      cases rest with
      | nil => rw [List.append_nil, length_sections_replicate, ofRun]
      | cons char rest =>
          have isOther : char ≠ '=' := by simpa using isBroken
          have parts := length_sections_append_cons (List.replicate count '=') rest isOther
          have later := ih rest.length (by simp [← size]; omega) rest rfl
          rw [length_sections_replicate, ofRun, later] at parts
          rw [sectionCount, bars_append_cons _ _ isOther, cutsIn_append]
          unfold sectionCount at parts
          omega

theorem delimiter_infix_iff (text : Text) :
    delimiter <:+: text ↔ ∃ bar ∈ bars text, 8 ≤ bar.length := by
  rw [← one_lt_length_cut_iff _ _ delimiter_ne_nil]
  have count := length_sections text
  rw [sections, sectionCount] at count
  rw [count, Nat.lt_add_right_iff_pos, cutsIn_pos_iff]

theorem not_delimiter_infix_iff (text : Text) :
    ¬ delimiter <:+: text ↔ ∀ bar ∈ bars text, bar.length < 8 := by
  rw [delimiter_infix_iff]
  simp

/-- The two sections of a fixture are what stands before its only long bar, and what is left of
that bar with what stands behind it. -/
theorem sections_eq_pair_iff_bar (text source expected : Text) :
    sections text = [source, expected] ↔
      ∃ bar back, IsOnlyLong source bar back ∧ text = source ++ (bar ++ back) ∧
        expected = List.replicate (bar.length - 8) '=' ++ back := by
  rw [sections_eq_pair_iff, IsSource, not_delimiter_infix_iff, not_delimiter_infix_iff]
  constructor
  · rintro ⟨rfl, ⟨sourceShort, isFirst⟩, expectedShort⟩
    obtain ⟨count, back, rfl, isLast⟩ := starts_with_run expected
    rw [bars_append_of_head? _ isLast] at expectedShort
    have isFew : ¬ 8 ≤ count := by
      rw [← delimiter_infix_replicate_iff, not_delimiter_infix_iff]
      intro other member
      exact expectedShort other (List.mem_append_left _ member)
    refine ⟨List.replicate (8 + count) '=', back, ⟨⟨by simp, by simp, isFirst, isLast⟩, ?_, ?_, ?_⟩,
      ?_, ?_⟩
    · simp
    · rw [List.length_replicate]
      omega
    · intro other member
      rcases List.mem_append.mp member with inSource | inBack
      · exact sourceShort other inSource
      · exact expectedShort other (List.mem_append_right _ inBack)
    · rw [delimiter_eq_replicate, ← List.append_assoc (List.replicate 8 '='),
        List.replicate_append_replicate]
    · rw [List.length_replicate, Nat.add_sub_cancel_left]
  · rintro ⟨bar, back, isOnly, rfl, rfl⟩
    have isRun : bar = List.replicate bar.length '=' :=
      List.eq_replicate_iff.mpr ⟨rfl, isOnly.isRun⟩
    refine ⟨?_, ⟨?_, isOnly.isFirst⟩, ?_⟩
    · rw [delimiter_eq_replicate, ← List.append_assoc (List.replicate 8 '='),
        List.replicate_append_replicate, Nat.add_sub_cancel' isOnly.isLong, ← isRun]
    · intro other member
      exact isOnly.areShort other (List.mem_append_left _ member)
    · intro other member
      rw [bars_append_of_head? _ isOnly.isLast] at member
      rcases List.mem_append.mp member with inRun | inBack
      · have isAbsent : ¬ delimiter <:+: List.replicate (bar.length - 8) '=' := by
          have isSingle := isOnly.isSingle
          rw [delimiter_infix_replicate_iff]
          omega
        exact (not_delimiter_infix_iff _).mp isAbsent other inRun
      · exact isOnly.areShort other (List.mem_append_right _ inBack)

end Fixture

/-! ### Writing the sections -/

namespace Disk

variable {disk : Disk} {path : Path}

/-- Neither a link nor a folder is at a path. -/
structure IsOpen (disk : Disk) (path : Path) : Prop where
  isNoLink : disk.isLink path = false
  isNoFolder : ∀ location, disk.find path ≠ .ok (location, .folder)

variable {folder : Location} {name : String}

theorem IsOpen.entry (isOpen : disk.IsOpen path) (leads : disk.Leads path folder name) :
    (∀ target, disk.entryAt? (folder ++ [name]) ≠ some (.link target)) ∧
      disk.entryAt? (folder ++ [name]) ≠ some .folder := by
  have isNoLink := leads.isLink_eq_false_iff.mp isOpen.isNoLink
  refine ⟨isNoLink, fun isFolder => isOpen.isNoFolder (folder ++ [name]) ?_⟩
  rw [(leads.routesTo isNoLink .look).find_eq, isFolder]

theorem Leads.write_of_open (leads : disk.Leads path folder name)
    (isNoLink : ∀ target, disk.entryAt? (folder ++ [name]) ≠ some (.link target))
    (isNoFolder : disk.entryAt? (folder ++ [name]) ≠ some .folder) (content : Bytes) :
    disk.write path content = .ok (disk.store (folder ++ [name]) content) ∧
      disk.KeepsRoutes (disk.store (folder ++ [name]) content) :=
  ⟨(leads.routesTo isNoLink .write).write_open content isNoFolder,
    keepsRoutes_store content (by simp) isNoFolder isNoLink⟩

theorem Leads.read_of_file {content : Bytes} {executable : Bool}
    (leads : disk.Leads path folder name)
    (isFile : disk.entryAt? (folder ++ [name]) = some (.file content executable)) :
    disk.read path = .ok content := by
  rw [(leads.routesTo (by simp [isFile]) .look).read_eq, isFile]

theorem write_sections (isFixture : path.isFixture = true) (leads : disk.Leads path folder name)
    (sourceOpen : disk.IsOpen (Artifacts.ofFixture path).source)
    (expectedOpen : disk.IsOpen (Artifacts.ofFixture path).expected) (source expected : Bytes) :
    ∃ between after, disk.write (Artifacts.ofFixture path).source source = .ok between ∧
      between.write (Artifacts.ofFixture path).expected expected = .ok after ∧
      after.read (Artifacts.ofFixture path).source = .ok source ∧
      after.read (Artifacts.ofFixture path).expected = .ok expected := by
  rcases leads_or_folders isFixture leads with ⟨home, leadsAll⟩ | folders
  · obtain ⟨isNoLink, isNoFolder⟩ := sourceOpen.entry (leadsAll .source)
    obtain ⟨isSource, keeps⟩ := (leadsAll .source).write_of_open isNoLink isNoFolder source
    -- The place of the expectation is another one, so it is as open as it was.
    have same : (disk.store (home.place .source) source).entryAt? (home.place .expected) =
        disk.entryAt? (home.place .expected) := by simp
    obtain ⟨isNoLinkToo, isNoFolderToo⟩ := expectedOpen.entry (leadsAll .expected)
    obtain ⟨isExpected, keepsToo⟩ := ((leadsAll .expected).mono keeps).write_of_open
      (fun target => same.trans_ne (isNoLinkToo target)) (same.trans_ne isNoFolderToo) expected
    have leadsStill (role : Role) := ((leadsAll role).mono keeps).mono keepsToo
    have sourceThere : ((disk.store (home.place .source) source).store (home.place .expected)
        expected).entryAt? (home.place .source) =
          some (.file source (disk.executableAt (home.place .source))) := by simp
    have expectedThere : ((disk.store (home.place .source) source).store (home.place .expected)
        expected).entryAt? (home.place .expected) = some (.file expected
          ((disk.store (home.place .source) source).executableAt (home.place .expected))) := by simp
    exact ⟨_, _, isSource, isExpected, (leadsStill .source).read_of_file sourceThere,
      (leadsStill .expected).read_of_file expectedThere⟩
  · obtain ⟨location, routed⟩ := folders .source (by decide)
    exact absurd (find_of_folder (routed .look)) (sourceOpen.isNoFolder location)

end Disk

namespace Artifacts

open FixtureRunner.Action

theorem split_eq_malformed_iff {artifacts : Artifacts} {workspace : Workspace} {content : Bytes}
    (isRead : workspace.disk.read artifacts.fixture = .ok content) (count : Nat) :
    (artifacts.split.run workspace).1 = .ok (.malformed count) ↔
      count = (Fixture.sections (Text.decode content)).length ∧ count ≠ 2 := by
  by_cases isPair : (Fixture.sections (Text.decode content)).length = 2
  · rw [isPair]
    constructor
    · intro isMalformed
      obtain ⟨source, expected, isPair⟩ := List.length_eq_two.mp isPair
      cases (writes_of_split isRead isPair (run_eq_of_result workspace isMalformed)).1
    · rintro ⟨isTwo, isOther⟩
      exact absurd isTwo isOther
  · obtain ⟨log, ran, _⟩ := split_ends_malformed isRead isPair _ rfl
    rw [ran]
    constructor
    · intro isMalformed
      cases isMalformed
      exact ⟨rfl, isPair⟩
    · rintro ⟨rfl, _⟩
      rfl

/-- A fixture is malformed, and then nothing is written, unless its bars make two sections of it.
They do if one bar holds the delimiter once and no other bar holds it; then the source is all that
stands before that bar, and the expectation is the rest of the bar and all that stands behind. -/
theorem split_by_bars {path : Path} {content : Bytes} {before : Workspace}
    (isFixture : path.isFixture = true) (isRead : before.disk.read path = .ok content) :
    (Fixture.sections (Text.decode content)).length = Fixture.sectionCount (Text.decode content) ∧
    (∀ count, ((ofFixture path).split.run before).1 = .ok (.malformed count) ↔
      count = Fixture.sectionCount (Text.decode content) ∧ count ≠ 2) ∧
    (Fixture.sectionCount (Text.decode content) ≠ 2 →
      ((ofFixture path).split.run before).2.disk = before.disk) ∧
    (Fixture.sectionCount (Text.decode content) = 2 ↔
      ∃ front bar back, Fixture.IsOnlyLong front bar back ∧
        Text.decode content = front ++ (bar ++ back)) ∧
    ∀ front bar back, Fixture.IsOnlyLong front bar back →
      Text.decode content = front ++ (bar ++ back) →
      Text.decode content =
        front ++ (Fixture.delimiter ++ (List.replicate (bar.length - 8) '=' ++ back)) ∧
      (before.disk.IsOpen (ofFixture path).source → before.disk.IsOpen (ofFixture path).expected →
        ∃ after, (ofFixture path).split.run before = (.ok .written, after) ∧
          after.disk.read (ofFixture path).source = .ok (Text.encode front) ∧
          after.disk.read (ofFixture path).expected =
            .ok (Text.encode (List.replicate (bar.length - 8) '=' ++ back))) := by
  have isReadFixture : before.disk.read (ofFixture path).fixture = .ok content := isRead
  have counted := Fixture.length_sections (Text.decode content)
  refine ⟨counted, ?_, ?_, ?_, ?_⟩
  · intro count
    rw [← counted]
    exact split_eq_malformed_iff isReadFixture count
  · intro isNoPair
    rw [← counted] at isNoPair
    obtain ⟨log, ran, _⟩ := split_ends_malformed isReadFixture isNoPair _ rfl
    rw [ran]
  · rw [← counted, List.length_eq_two]
    constructor
    · rintro ⟨source, expected, isPair⟩
      obtain ⟨bar, back, isOnly, isText, _⟩ :=
        (Fixture.sections_eq_pair_iff_bar _ _ _).mp isPair
      exact ⟨source, bar, back, isOnly, isText⟩
    · rintro ⟨front, bar, back, isOnly, isText⟩
      exact ⟨front, _, (Fixture.sections_eq_pair_iff_bar _ _ _).mpr ⟨bar, back, isOnly, isText, rfl⟩⟩
  · intro front bar back isOnly isText
    have isPair := (Fixture.sections_eq_pair_iff_bar _ _ _).mpr ⟨bar, back, isOnly, isText, rfl⟩
    refine ⟨((Fixture.sections_eq_pair_iff _ _ _).mp isPair).1, fun sourceOpen expectedOpen => ?_⟩
    obtain ⟨_, _, leads⟩ := Disk.leads_of_read isRead
    obtain ⟨between, left, isSource, isExpected, sourceBack, expectedBack⟩ :=
      Disk.write_sections isFixture leads sourceOpen expectedOpen (Text.encode front)
        (Text.encode (List.replicate (bar.length - 8) '=' ++ back))
    obtain ⟨log, ran, _⟩ := split_ends_of_writes isReadFixture isPair isSource isExpected _ rfl
    exact ⟨_, ran, sourceBack, expectedBack⟩

def barredDisk : Disk :=
  (Disk.empty ["work"]).put ["work", "a.tst"]
    (.file (Text.toBytes "a\n===\n==========\nb==\n") false)

theorem split_by_bars_barredDisk :
    barredDisk.read ⟨"a.tst"⟩ = .ok (Text.toBytes "a\n===\n==========\nb==\n") ∧
    ∃ after, (ofFixture ⟨"a.tst"⟩).split.run { disk := barredDisk } = (.ok .written, after) ∧
      after.disk.read ⟨"a.syp"⟩ = .ok (Text.toBytes "a\n===\n") ∧
      after.disk.read ⟨"a.exp"⟩ = .ok (Text.toBytes "==\nb==\n") := by
  have isRead : { disk := barredDisk : Workspace }.disk.read ⟨"a.tst"⟩ =
      .ok (Text.toBytes "a\n===\n==========\nb==\n") := by decide +kernel
  have isText : Text.decode (Text.toBytes "a\n===\n==========\nb==\n") =
      "a\n===\n".toList ++ ("==========".toList ++ "\nb==\n".toList) := by decide +kernel
  have isRun : "==========".toList = List.replicate 10 '=' := by decide +kernel
  have isOnly : Fixture.IsOnlyLong "a\n===\n".toList "==========".toList "\nb==\n".toList :=
    ⟨⟨by decide, fun char member => List.eq_of_mem_replicate (isRun ▸ member), by decide,
      by decide⟩, by decide, by decide, by decide +kernel⟩
  have isOpen (path : Path) (isNoLink : barredDisk.isLink path = false)
      (isMissing : barredDisk.find path = .error .missing) : barredDisk.IsOpen path := by
    refine ⟨isNoLink, fun location found => ?_⟩
    rw [isMissing] at found
    cases found
  have sourceOpen := isOpen ⟨"a.syp"⟩ (by decide +kernel) (by decide +kernel)
  have expectedOpen := isOpen ⟨"a.exp"⟩ (by decide +kernel) (by decide +kernel)
  obtain ⟨_, _, _, _, sections⟩ := split_by_bars sampleIsFixture isRead
  exact ⟨isRead, (sections _ _ _ isOnly isText).2 sourceOpen expectedOpen⟩

end Artifacts

end FixtureRunner
