/-
Updating a fixture.

An update writes the source it has compiled and the normalized text back to the fixture.  With
a compiler that is stable and a comparison that ignores blank lines, the next update finds
the fixture as it should be, unless the text holds the delimiter.
-/

import FixtureRunner.Proofs.Batch.FinalState
import FixtureRunner.Proofs.Fixture.Sections

namespace FixtureRunner

open Text (encode decode)

/-! ### Stable programs -/

/-- The lines of a text that are not empty. -/
def Text.filledLines (text : Text) : List Text :=
  (Text.pieces text).filter fun piece => piece ≠ ['\n']

theorem Text.filledLines_newline (text : Text) :
    Text.filledLines ('\n' :: text) = Text.filledLines text := by
  simp [Text.filledLines, Text.pieces]

/-- The compiler is stable: wherever the generated file can be written, it exits with success
and leaves the bytes there that the bytes of the source determine.  It touches nothing else. -/
structure Host.Compiles (host : Host) (command : Command) (source generated : Path)
    (translate : Bytes → Bytes) : Prop where
  writesOnly : host.WritesOnly command generated
  succeeds : ∀ (disk grown : Disk) (content : Bytes), disk.read source = .ok content →
    disk.isLink generated = false → disk.write generated (translate content) = .ok grown →
    ∃ performance left, host command disk = (.ok performance, left) ∧
      performance.ending = some (.exited 0) ∧ left.read generated = .ok (translate content)

/-- The comparison changes nothing, and it exits with success if the files differ in empty
lines at most. -/
structure Host.Compares (host : Host) (command : Command) (expected generated : Path) : Prop where
  writesNothing : host.WritesNothing command
  accepts : ∀ (disk : Disk) (first second : Bytes), disk.read expected = .ok first →
    disk.read generated = .ok second →
    (decode first).filledLines = (decode second).filledLines →
    ∃ performance, (host command disk).1 = .ok performance ∧
      performance.ending = some (.exited 0)

theorem Invocation.success_of_exit (invocation : Invocation) {performance : Performance}
    (exits : performance.ending = some (.exited 0)) :
    (invocation.output performance).success = true := by
  unfold Invocation.output
  rw [exits]
  cases invocation.timeoutMs.isSome <;> rfl

section Programs

variable {host : Host} {artifacts : Artifacts} {home : Home} {disk : Disk}
  {invocation : Invocation}

theorem Host.Compiles.ran {translate : Bytes → Bytes} {source : Text}
    (compiles : host.Compiles invocation.command artifacts.source artifacts.generated translate)
    (hasNoNul : invocation.hasNul = false) (houses : disk.Houses artifacts home)
    (isSource : disk.read artifacts.source = .ok (encode source))
    (isOpen : home.IsOpen disk .generated) :
    ∃ output left, invocation.Ran host disk output left ∧ output.success = true ∧
      home.text? left .generated = some (decode (translate (encode source))) := by
  have isWritten := houses.write_of_open .generated (translate (encode source)) isOpen
  have isNoLink := houses.isLink_eq_false .generated
  obtain ⟨performance, left, isPerformed, exits, isRead⟩ :=
    compiles.succeeds disk _ _ isSource isNoLink isWritten
  have ran : invocation.Ran host disk (invocation.output performance) left :=
    ⟨hasNoNul, performance, isPerformed, rfl⟩
  obtain ⟨_, leftHouses⟩ := ran.houses compiles.writesOnly houses isOpen
  exact ⟨_, left, ran, invocation.success_of_exit exits,
    (leftHouses.text?_iff .generated _).mpr ⟨_, isRead, rfl⟩⟩

theorem Host.Compares.ran {first second : Text}
    (compares : host.Compares invocation.command artifacts.expected artifacts.generated)
    (hasNoNul : invocation.hasNul = false) (houses : disk.Houses artifacts home)
    (isFirst : home.text? disk .expected = some first)
    (isSecond : home.text? disk .generated = some second)
    (isAlike : first.filledLines = second.filledLines) :
    ∃ output, invocation.Ran host disk output disk ∧ output.success = true := by
  obtain ⟨firstBytes, readsFirst, rfl⟩ := (houses.text?_iff .expected first).mp isFirst
  obtain ⟨secondBytes, readsSecond, rfl⟩ := (houses.text?_iff .generated second).mp isSecond
  obtain ⟨performance, isPerformed, exits⟩ :=
    compares.accepts disk firstBytes secondBytes readsFirst readsSecond isAlike
  have same := compares.writesNothing disk
  exact ⟨_, ⟨hasNoNul, performance, Prod.ext isPerformed same, rfl⟩,
    invocation.success_of_exit exits⟩

end Programs

namespace Batch

/-! ### Runs that rewrite the fixture -/

section Rewriting

variable (host : Host) (settings : Settings) (artifacts : Artifacts) (home : Home)

/-- Everything up to the moment an update rewrites the fixture has gone well, and the
comparison has failed. -/
def Rewriting (before : Disk) (source generated : Text) (left : Disk) : Prop :=
  ∃ text expected output compiled raw compared,
    home.text? before .fixture = some text ∧
    Fixture.sections text = [source, expected] ∧
    before.entryAt? (home.place .source) ≠ some .folder ∧
    before.entryAt? (home.place .expected) ≠ some .folder ∧
    (home.split before source expected).entryAt? (home.place .generated) ≠ some .folder ∧
    (compilation settings artifacts).Ran host
      ((home.split before source expected).erase (home.place .generated)) output compiled ∧
    output.success = true ∧
    home.text? compiled .generated = some raw ∧
    (comparison settings artifacts).Ran host (shown settings home compiled raw) compared left ∧
    compared.success = false ∧
    home.text? left .generated = some generated

variable {host settings artifacts home} {mode : RunMode} {before left final : Disk}
  {source generated : Text} {started : List Invocation}

theorem Rewriting.classified {result : Except Failure Outcome}
    (rewriting : Rewriting host settings artifacts home before source generated left)
    (isUpdate : mode = .update)
    (classified : Classification host settings mode artifacts home before result final started) :
    result = .ok .updated ∧ final = left.store (home.place .fixture)
      (encode (Fixture.assemble source generated)) := by
  obtain ⟨text, expected, output, compiled, raw, compared, isText, isPair, sourceOpen,
    expectedOpen, generatedOpen, ran, succeeded, isRaw, ranAgain, differed, isGenerated⟩ :=
    rewriting
  have compiling := classified.compiling_of_pair isText isPair sourceOpen expectedOpen
  obtain ⟨rest, producing⟩ := compiling.producing_of_ran generatedOpen ran
  have verdict := (producing.comparing_of_file succeeded isRaw).verdict_of_ran ranAgain
  exact verdict.rebuilt_of_update differed isUpdate isGenerated

theorem Classification.rewriting
    (classified : Classification host settings mode artifacts home before (.ok .updated) final
      started) :
    mode = .update ∧
      ∃ source generated left,
        Rewriting host settings artifacts home before source generated left ∧
        final = left.store (home.place .fixture)
          (encode (Fixture.assemble source generated)) := by
  cases classified with
  | divided isText isPair sourceOpen expectedOpen compiling =>
      cases compiling with
      | compiled generatedOpen ran producing =>
          cases producing with
          | unsuccessful failed logging => cases logging
          | missing succeeded isNoFile logging => cases logging
          | produced succeeded isRaw comparing =>
              cases comparing with
              | compared ranAgain verdict =>
                  cases verdict with
                  | rebuilt differed isUpdate isGenerated =>
                      exact ⟨isUpdate, _, _, _, ⟨_, _, _, _, _, _, isText, isPair, sourceOpen,
                        expectedOpen, generatedOpen, ran, succeeded, isRaw, ranAgain, differed,
                        isGenerated⟩, rfl⟩
                  | mismatched differed isNoUpdate logging => cases logging

theorem Rewriting.sections_eq
    (rewriting : Rewriting host settings artifacts home before source generated left) :
    ∃ text expected, home.text? before .fixture = some text ∧
      Fixture.sections text = [source, expected] := by
  obtain ⟨text, expected, _, _, _, _, isText, isPair, _⟩ := rewriting
  exact ⟨text, expected, isText, isPair⟩

theorem Rewriting.unique {other : Disk} {otherSource otherGenerated : Text}
    (first : Rewriting host settings artifacts home before source generated left)
    (second : Rewriting host settings artifacts home before otherSource otherGenerated other) :
    otherSource = source ∧ otherGenerated = generated := by
  obtain ⟨_, _, _, _, _, _, isText, isPair, _, _, _, ran, _, isRaw, ranAgain, _, isGenerated⟩ :=
    first
  obtain ⟨_, _, _, _, _, _, isText', isPair', _, _, _, ran', _, isRaw', ranAgain', _,
    isGenerated'⟩ := second
  obtain ⟨rfl, rfl⟩ := Home.sections_unique isText isPair isText' isPair'
  obtain ⟨_, rfl⟩ := ran.unique ran'
  obtain rfl := Option.some.inj (isRaw.symm.trans isRaw')
  obtain ⟨_, rfl⟩ := ranAgain.unique ranAgain'
  exact ⟨rfl, Option.some.inj (isGenerated'.symm.trans isGenerated)⟩

/-- A run either rewrites the fixture or leaves it, and puts no folder in the way. -/
theorem Course.leaves_fixture {result : Except Failure Outcome}
    (confined : Confined host settings artifacts) (houses : before.Houses artifacts home)
    (course : Course host settings mode artifacts home before result final started) :
    final.Houses artifacts home ∧
    (∀ role ∈ [Role.source, .expected], home.IsOpen before role → home.IsOpen final role) ∧
    ((mode = .update ∧ ∃ source generated left,
        Rewriting host settings artifacts home before source generated left ∧
        ∃ executable, final.entryAt? (home.place .fixture) =
          some (.file (encode (Fixture.assemble source generated)) executable)) ∨
      (¬ (mode = .update ∧ ∃ source generated left,
        Rewriting host settings artifacts home before source generated left) ∧
        final.entryAt? (home.place .fixture) = before.entryAt? (home.place .fixture))) := by
  obtain ⟨classifiedAs, left, removed, classified, keepsFixture, areOpen, rfl⟩ := course.clears
  have leaves := classified.leaves confined houses
  refine ⟨leaves.houses.clear areOpen, fun role isSection isOpen => Home.clear_open
    (leaves.isOpen role isSection isOpen), ?_⟩
  rw [Home.entryAt?_clear, if_neg fun member => keepsFixture .fixture member rfl]
  by_cases isUpdated : classifiedAs = .ok .updated
  · subst isUpdated
    obtain ⟨isUpdate, source, generated, seen, rewriting, rfl⟩ := classified.rewriting
    refine Or.inl ⟨isUpdate, source, generated, seen, rewriting, ?_⟩
    rw [Home.entryAt?_store, if_pos rfl]
    exact ⟨_, rfl⟩
  · refine Or.inr ⟨?_, leaves.fixture isUpdated⟩
    rintro ⟨isUpdate, source, generated, seen, rewriting⟩
    exact isUpdated (rewriting.classified isUpdate classified).1

end Rewriting

theorem IsShown.derived_open {home : Home} {source expected generated : Text}
    {before seen : Disk} (isShown : IsShown home source expected generated before seen)
    (logOpen : home.IsOpen before .errorLog) {role : Role}
    (isDerived : role ∈ Role.derived) : home.IsOpen seen role := by
  obtain ⟨⟨_, isSource⟩, ⟨_, isExpected⟩, ⟨_, isGenerated⟩, touches⟩ := isShown
  cases role with
  | fixture => exact absurd isDerived (by decide)
  | source => simp [isSource]
  | expected => simp [isExpected]
  | generated => simp [isGenerated]
  | errorLog => exact touches.isOpen (by decide) logOpen

/-! ### Two updates in succession -/

section Stable

variable {host : Host} {settings : Settings} {artifacts : Artifacts} {home : Home}
  {before after : Disk} {source generated : Text} {translate : Bytes → Bytes}
  {started : List Invocation}
  (compiles : host.Compiles (compilation settings artifacts).command artifacts.source
    artifacts.generated translate)
  (compares : host.Compares (comparison settings artifacts).command artifacts.expected
    artifacts.generated)

def stableText (settings : Settings) (translate : Bytes → Bytes) (source : Text) : Text :=
  settings.normalizer.normalize (decode (translate (encode source)))

/-- An update has left nothing but the assembled fixture. -/
structure IsUpdated (artifacts : Artifacts) (home : Home) (source generated : Text)
    (disk : Disk) : Prop where
  houses : disk.Houses artifacts home
  areMissing : ∀ role ∈ Role.derived, disk.entryAt? (home.place role) = none
  fixture : ∃ executable, disk.entryAt? (home.place .fixture) =
    some (.file (encode (Fixture.assemble source generated)) executable)

theorem IsUpdated.text_fixture {disk : Disk}
    (isUpdated : IsUpdated artifacts home source generated disk) :
    home.text? disk .fixture = some (Fixture.assemble source generated) := by
  obtain ⟨executable, isFile⟩ := isUpdated.fixture
  rw [Home.text?_eq_some_iff]
  exact ⟨_, executable, isFile, Text.decode_encode _⟩

include compiles compares in
theorem Rewriting.generated_eq {left : Disk} (houses : before.Houses artifacts home)
    (rewriting : Rewriting host settings artifacts home before source generated left) :
    generated = stableText settings translate source ∧
      (compilation settings artifacts).hasNul = false ∧
      (comparison settings artifacts).hasNul = false := by
  obtain ⟨text, expected, output, compiled, raw, compared, isText, isPair, sourceOpen,
    expectedOpen, generatedOpen, ran, succeeded, isRaw, ranAgain, differed, isGenerated⟩ :=
    rewriting
  have readyHouses := (houses.split source expected sourceOpen expectedOpen).erase generatedOpen
  have isReady : IsReady artifacts source expected before _ :=
    isReady_of_split houses sourceOpen expectedOpen generatedOpen
  obtain ⟨_, _, ranStable, _, isStable⟩ :=
    compiles.ran ran.hasNoNul readyHouses isReady.source (by simp)
  obtain ⟨_, rfl⟩ := ran.unique ranStable
  obtain rfl := Option.some.inj (isRaw.symm.trans isStable)
  obtain rfl := ranAgain.left_eq compares.writesNothing
  rw [shown, Home.text?_store, if_pos rfl] at isGenerated
  exact ⟨(Option.some.inj isGenerated).symm, ran.hasNoNul, ranAgain.hasNoNul⟩

include compiles compares

theorem Course.updates (houses : before.Houses artifacts home)
    (course : Course host settings .update artifacts home before (.ok .updated) after started) :
    ∃ text source expected, home.text? before .fixture = some text ∧
      Fixture.sections text = [source, expected] ∧
      IsUpdated artifacts home source (stableText settings translate source) after ∧
      (compilation settings artifacts).hasNul = false ∧
      (comparison settings artifacts).hasNul = false := by
  have confined : Confined host settings artifacts :=
    ⟨compiles.writesOnly, compares.writesNothing.writesOnly _⟩
  obtain ⟨left, classified, ending⟩ := course.classified
  have leftHouses := (classified.leaves confined houses).houses
  obtain ⟨_, source, generated, seen, rewriting, rfl⟩ := classified.rewriting
  obtain ⟨rfl, compilerSendable, diffSendable⟩ :=
    rewriting.generated_eq compiles compares houses
  obtain ⟨text, expected, isText, isPair⟩ := rewriting.sections_eq
  rcases ending with ⟨keeps, _⟩ | ⟨_, areOpen, rfl⟩
  · cases keeps
  · refine ⟨text, source, expected, isText, isPair, ⟨leftHouses.clear areOpen, ?_, ?_⟩,
      compilerSendable, diffSendable⟩
    · intro role isDerived
      rw [Home.entryAt?_clear, if_pos isDerived]
    · rw [(home.touches_clear _ _).entry (by decide), Home.entryAt?_store, if_pos rfl]
      exact ⟨_, rfl⟩

variable (compilerSendable : (compilation settings artifacts).hasNul = false)
  (diffSendable : (comparison settings artifacts).hasNul = false)
  (isUpdated : IsUpdated artifacts home source (stableText settings translate source) before)
  (isPair : Fixture.sections (Fixture.assemble source (stableText settings translate source)) =
    [source, '\n' :: '\n' :: stableText settings translate source])

include compilerSendable diffSendable isUpdated isPair

theorem IsUpdated.classified_ok {result : Except Failure Outcome} {left : Disk}
    (classified : Classification host settings .update artifacts home before result left
      started) :
    result = .ok .ok ∧ left.Houses artifacts home ∧
      IsShown home source ('\n' :: '\n' :: stableText settings translate source)
        (stableText settings translate source) before left := by
  have isText := isUpdated.text_fixture
  obtain ⟨houses, areMissing, _⟩ := isUpdated
  have isOpen (role : Role) (isDerived : role ∈ Role.derived) :
      home.IsOpen before role := by
    simp [areMissing role isDerived]
  have sourceOpen := isOpen .source (by decide)
  have expectedOpen := isOpen .expected (by decide)
  have generatedOpen : home.IsOpen (home.split before source
      ('\n' :: '\n' :: stableText settings translate source)) .generated :=
    (home.touches_split _ _ _).isOpen (by decide) (isOpen .generated (by decide))
  have readyHouses := (houses.split source ('\n' :: '\n' :: stableText settings translate source)
    sourceOpen expectedOpen).erase generatedOpen
  have isReady : IsReady artifacts source _ before _ :=
    isReady_of_split houses sourceOpen expectedOpen generatedOpen
  -- The compiler writes what it has written before.
  obtain ⟨output, compiled, ran, succeeded, isRaw⟩ :=
    compiles.ran compilerSendable readyHouses isReady.source (by simp)
  obtain ⟨compiledTouches, compiledHouses⟩ :=
    ran.houses compiles.writesOnly readyHouses (by simp)
  have isShown := isShown_of_compiled settings (decode (translate (encode source)))
    ((Home.Touches.erase home _ .generated).trans compiledTouches)
  have shownHouses : (shown settings home compiled
      (decode (translate (encode source)))).Houses artifacts home :=
    compiledHouses.store _ (Home.open_of_text? isRaw)
  -- The expectation is that text below two empty lines.
  obtain ⟨compared, ranAgain, agreed⟩ := compares.ran diffSendable shownHouses
    (Home.text?_of_file isShown.expected) (Home.text?_of_file isShown.generated)
    (by simp only [Text.filledLines_newline, stableText])
  have compiling := classified.compiling_of_pair isText isPair sourceOpen expectedOpen
  obtain ⟨rest, producing⟩ := compiling.producing_of_ran generatedOpen ran
  have verdict := (producing.comparing_of_file succeeded isRaw).verdict_of_ran ranAgain
  obtain ⟨isOk, rfl⟩ := verdict.matched_of_success agreed
  exact ⟨isOk, shownHouses, isShown⟩

theorem IsUpdated.course_ok {result : Except Failure Outcome}
    (course : Course host settings .update artifacts home before result after started) :
    result = .ok .ok ∧
      IsUpdated artifacts home source (stableText settings translate source) after ∧
      after.entryAt? (home.place .fixture) = before.entryAt? (home.place .fixture) := by
  have classifiedOk {classifiedAs : Except Failure Outcome} {left : Disk}
      (classified : Classification host settings .update artifacts home before classifiedAs left
        started) :=
    classified_ok compiles compares compilerSendable diffSendable isUpdated isPair classified
  cases course with
  | stopped classified =>
      obtain ⟨isOk, _⟩ := classifiedOk classified
      cases isOk
  | kept classified keeps =>
      obtain ⟨isOk, _⟩ := classifiedOk classified
      cases isOk
      cases keeps
  | @purged outcome left _ classified purges areOpen =>
      obtain ⟨isOk, leftHouses, isShown⟩ := classifiedOk classified
      have unchanged : (home.clear left Role.derived).entryAt? (home.place .fixture) =
          before.entryAt? (home.place .fixture) := by
        rw [(home.touches_clear _ _).entry (by decide), isShown.touches.entry (by decide)]
      refine ⟨isOk, ⟨leftHouses.clear areOpen, ?_, ?_⟩, unchanged⟩
      · intro role isDerived
        rw [Home.entryAt?_clear, if_pos isDerived]
      · rw [unchanged]
        exact isUpdated.fixture
  | @unpurged _ _ _ _ removed rest blocked classified purges isCut areOpen isFolder =>
      obtain ⟨_, _, isShown⟩ := classifiedOk classified
      have isDerived : blocked ∈ Role.derived := by
        rw [isCut]
        simp
      have logMissing := isUpdated.areMissing .errorLog (by decide)
      exact absurd isFolder (isShown.derived_open (by simp [logMissing]) isDerived)

end Stable

/-- An update with a stable compiler is followed by one that finds nothing to do, if the text
written back is free of the delimiter, and by a malformed fixture if it is not.  Either way
the fixture stays as the first update has left it. -/
theorem update_converges {host : Host} {settings : Settings} {path : Path}
    {translate : Bytes → Bytes} {before updated : Workspace} (isFixture : path.isFixture = true)
    (noLinks : (Artifacts.ofFixture path).NoLinks before.disk)
    (compiles : host.Compiles (compilation settings (Artifacts.ofFixture path)).command
      (Artifacts.ofFixture path).source (Artifacts.ofFixture path).generated translate)
    (compares : host.Compares (comparison settings (Artifacts.ofFixture path)).command
      (Artifacts.ofFixture path).expected (Artifacts.ofFixture path).generated)
    (returned : (runFixture host settings .update path).run before = (.ok .updated, updated)) :
    ∃ content source expected outcome again,
      before.disk.read path = .ok content ∧
      Fixture.sections (Text.decode content) = [source, expected] ∧
      updated.disk.read path = .ok (Text.encode
        (Fixture.assemble source (stableText settings translate source))) ∧
      (runFixture host settings .update path).run updated = (.ok outcome, again) ∧
      (¬ Fixture.delimiter <:+: stableText settings translate source →
        outcome = .ok ∧
          ∀ derived ∈ (Artifacts.ofFixture path).derived,
            again.disk.find derived = .error .missing) ∧
      (Fixture.delimiter <:+: stableText settings translate source → outcome = .malformed) ∧
      again.disk.read path = updated.disk.read path := by
  have confined : Confined host settings (Artifacts.ofFixture path) :=
    ⟨compiles.writesOnly, compares.writesNothing.writesOnly _⟩
  obtain ⟨home, houses⟩ := houses_of_returned isFixture noLinks returned nofun
  obtain ⟨result, final, started, course, ends⟩ := runFixture_ends .update confined houses
  obtain ⟨rfl, rfl, _⟩ := ends.eq_of_run returned
  obtain ⟨text, source, expected, isText, isPair, isUpdated, compilerSendable, diffSendable⟩ :=
    course.updates compiles compares houses
  obtain ⟨content, isContent, rfl⟩ := (houses.text?_iff .fixture text).mp isText
  have isSource : Fixture.IsSource source := ((Fixture.sections_eq_pair_iff _ _ _).mp isPair).2.1
  have isRead : updated.disk.read path = .ok (Text.encode
      (Fixture.assemble source (stableText settings translate source))) :=
    (isUpdated.houses.read_eq_ok_iff .fixture _).mpr isUpdated.fixture
  by_cases isPresent : Fixture.delimiter <:+: stableText settings translate source
  · have isMore := Fixture.two_lt_length_sections_assemble source _ isSource isPresent
    have isNoPair : (Fixture.sections (Text.decode (Text.encode
        (Fixture.assemble source (stableText settings translate source))))).length ≠ 2 := by
      rw [Text.decode_encode]
      omega
    obtain ⟨log, ran, _⟩ := runFixture_ends_malformed host settings .update isRead isNoPair _ rfl
    exact ⟨content, source, expected, _, _, isContent, isPair, isRead, ran,
      fun isFree => absurd isPresent isFree, fun _ => rfl, rfl⟩
  · have isPairAgain := (Fixture.sections_assemble_iff source _).mpr ⟨isSource, isPresent⟩
    obtain ⟨result, final, startedAgain, courseAgain, ends⟩ :=
      runFixture_ends .update confined isUpdated.houses
    obtain ⟨log, ran, _⟩ := ends _ rfl
    obtain ⟨rfl, isUpdatedStill, unchanged⟩ := IsUpdated.course_ok compiles compares
      compilerSendable diffSendable isUpdated isPairAgain courseAgain
    refine ⟨content, source, expected, _, _, isContent, isPair, isRead, ran, ?_,
      fun isThere => absurd isThere isPresent, ?_⟩
    · refine fun _ => ⟨rfl, fun derived isDerived => ?_⟩
      rw [Artifacts.derived_eq] at isDerived
      obtain ⟨role, member, rfl⟩ := List.mem_map.mp isDerived
      exact (isUpdatedStill.houses.find_eq_missing_iff role).mpr
        (isUpdatedStill.areMissing role member)
    · exact isUpdated.houses.read_congr isUpdatedStill.houses .fixture unchanged

/-- A compiler that translates its source, and a comparison that ignores empty lines. -/
def settlingHost (translate : Bytes → Bytes) : Host :=
  sampleHost "cc" ⟨"a.syp"⟩ ⟨"a.ll"⟩ translate fun disk =>
    if (disk.read ⟨"a.exp"⟩).map (fun content => (decode content).filledLines) =
        (disk.read ⟨"a.ll"⟩).map (fun content => (decode content).filledLines) then 0 else 1

theorem settlingHost_compiles (translate : Bytes → Bytes) {command : Command}
    (isCompiler : command.program = "cc") :
    (settlingHost translate).Compiles command ⟨"a.syp"⟩ ⟨"a.ll"⟩ translate := by
  refine ⟨sampleHost_writesOnly command, ?_⟩
  intro disk grown content isRead isNoLink isWritten
  refine ⟨{ ending := some (.exited 0) }, grown, ?_, rfl, Disk.read_of_write isWritten⟩
  rw [settlingHost, sampleHost, if_pos isCompiler, isRead]
  simp only [bind, Except.bind, isWritten]

theorem settlingHost_compares (translate : Bytes → Bytes) {command : Command}
    (isOther : command.program ≠ "cc") :
    (settlingHost translate).Compares command ⟨"a.exp"⟩ ⟨"a.ll"⟩ := by
  refine ⟨sampleHost_writesNothing isOther, ?_⟩
  intro disk first second isFirst isSecond isAlike
  refine ⟨{ ending := some (.exited 0) }, ?_, rfl⟩
  rw [settlingHost, sampleHost, if_neg isOther, isFirst, isSecond]
  simp [Except.map, isAlike]

/-- A source that is its own translation settles at once.  With a compiler that writes the
delimiter, the fixture is malformed. -/
theorem update_converges_staleDisk :
    (∃ updated again,
      (runFixture (settlingHost id) sampleSettings .update ⟨"a.tst"⟩).run
        { disk := staleDisk } = (.ok .updated, updated) ∧
      (runFixture (settlingHost id) sampleSettings .update ⟨"a.tst"⟩).run updated =
        (.ok .ok, again) ∧
      again.disk.read ⟨"a.tst"⟩ = updated.disk.read ⟨"a.tst"⟩) ∧
    ∃ updated again,
      (runFixture (settlingHost fun _ => Text.toBytes "========\n") sampleSettings .update
        ⟨"a.tst"⟩).run { disk := staleDisk } = (.ok .updated, updated) ∧
      (runFixture (settlingHost fun _ => Text.toBytes "========\n") sampleSettings .update
        ⟨"a.tst"⟩).run updated = (.ok .malformed, again) ∧
      again.disk.read ⟨"a.tst"⟩ = updated.disk.read ⟨"a.tst"⟩ := by
  have noLinks : (Artifacts.ofFixture ⟨"a.tst"⟩).NoLinks
      { disk := staleDisk : Workspace }.disk := staleDisk_noLinks
  have compiles (translate : Bytes → Bytes) : (settlingHost translate).Compiles
      (compilation sampleSettings (Artifacts.ofFixture ⟨"a.tst"⟩)).command
      (Artifacts.ofFixture ⟨"a.tst"⟩).source (Artifacts.ofFixture ⟨"a.tst"⟩).generated
      translate := by
    rw [sampleArtifacts_eq]
    exact settlingHost_compiles translate rfl
  have compares (translate : Bytes → Bytes) : (settlingHost translate).Compares
      (comparison sampleSettings (Artifacts.ofFixture ⟨"a.tst"⟩)).command
      (Artifacts.ofFixture ⟨"a.tst"⟩).expected (Artifacts.ofFixture ⟨"a.tst"⟩).generated := by
    rw [sampleArtifacts_eq]
    exact settlingHost_compares translate (by decide)
  have isContent : { disk := staleDisk : Workspace }.disk.read ⟨"a.tst"⟩ =
      .ok (Text.toBytes "x\n========\ny\n") := by
    decide +kernel
  have isPair : Fixture.sections (Text.decode (Text.toBytes "x\n========\ny\n")) =
      ["x\n".toList, "\ny\n".toList] := by
    decide +kernel
  constructor
  · have returned := Action.run_eq_of_result { disk := staleDisk } (show
      ((runFixture (settlingHost id) sampleSettings .update ⟨"a.tst"⟩).run
        { disk := staleDisk }).1 = .ok .updated by decide +kernel)
    obtain ⟨content, source, expected, outcome, again, isRead, isPairAgain, _, ranAgain, isOk, _,
      isSame⟩ := update_converges sampleIsFixture noLinks (compiles id) (compares id) returned
    obtain rfl := Except.ok.inj (isRead.symm.trans isContent)
    rw [isPair] at isPairAgain
    obtain ⟨rfl, _⟩ := List.cons.inj isPairAgain
    obtain ⟨rfl, _⟩ := isOk (by decide +kernel)
    exact ⟨_, again, returned, ranAgain, isSame⟩
  · have returned := Action.run_eq_of_result { disk := staleDisk } (show
      ((runFixture (settlingHost fun _ => Text.toBytes "========\n") sampleSettings .update
        ⟨"a.tst"⟩).run { disk := staleDisk }).1 = .ok .updated by decide +kernel)
    obtain ⟨content, source, expected, outcome, again, isRead, isPairAgain, _, ranAgain, _,
      isMalformed, isSame⟩ :=
        update_converges sampleIsFixture noLinks (compiles _) (compares _) returned
    obtain rfl := Except.ok.inj (isRead.symm.trans isContent)
    rw [isPair] at isPairAgain
    obtain ⟨rfl, _⟩ := List.cons.inj isPairAgain
    obtain rfl := isMalformed (by decide +kernel)
    exact ⟨_, again, returned, ranAgain, isSame⟩

end Batch

end FixtureRunner
