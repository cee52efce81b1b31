/-
Running a fixture again and again.

As long as the programs write the generated file only, a fixture that was split once is
split into the same source after every run, with one exception: an update writes the
generated text below the delimiter as it is, and if that text holds the delimiter itself the
fixture is malformed from then on.
-/

import FixtureRunner.Proofs.Batch.Update
import FixtureRunner.Proofs.Fixture.RoundTrip

namespace FixtureRunner

open Artifacts (ofFixture)

namespace Batch

/-! ### Calls -/

/-- A run of a fixture: the programs that are there, and how they are used. -/
structure Call where
  host : Host
  settings : Settings
  mode : RunMode

def Call.run (call : Call) (path : Path) (workspace : Workspace) :
    Except Failure Outcome × Workspace :=
  (runFixture call.host call.settings call.mode path).run workspace

/-- One call after another, also after calls that fail. -/
def runCalls (path : Path) (calls : List Call) (workspace : Workspace) : Workspace :=
  calls.foldl (fun held call => (call.run path held).2) workspace

/-- The fixture is split and what an earlier compilation has left is removed. -/
def Prepares (artifacts : Artifacts) (before ready : Disk) : Prop :=
  ∃ content source expected first second,
    before.read artifacts.fixture = .ok content ∧
    Fixture.sections (Text.decode content) = [source, expected] ∧
    before.write artifacts.source (Text.encode source) = .ok first ∧
    first.write artifacts.expected (Text.encode expected) = .ok second ∧
    (second.remove artifacts.generated = .ok ready ∨
      second.remove artifacts.generated = .error .missing ∧ ready = second)

/-- The call gets as far as writing a text back to the fixture: it is an update, the compiler
succeeds and leaves a file, and the comparison of the normalized file fails and leaves the
text there. -/
def Call.Rewrites (call : Call) (path : Path) (before : Disk) (generated : Text) : Prop :=
  call.mode = .update ∧
  ∃ ready output compiled raw seen compared left content,
    Prepares (ofFixture path) before ready ∧
    (compilation call.settings (ofFixture path)).Ran call.host ready output compiled ∧
    output.success = true ∧
    compiled.read (ofFixture path).generated = .ok raw ∧
    compiled.write (ofFixture path).generated
      (Text.encode (call.settings.normalizer.normalize (Text.decode raw))) = .ok seen ∧
    (comparison call.settings (ofFixture path)).Ran call.host seen compared left ∧
    compared.success = false ∧
    left.read (ofFixture path).generated = .ok content ∧
    Text.decode content = generated

/-- One of the calls writes a text back that holds the delimiter. -/
def Spoils (path : Path) (calls : List Call) (before : Workspace) : Prop :=
  ∃ earlier call later generated, calls = earlier ++ call :: later ∧
    call.Rewrites path (runCalls path earlier before).disk generated ∧
    Fixture.delimiter <:+: generated

variable {path : Path} {home : Home} {artifacts : Artifacts} {before : Disk}

/-! ### Rewriting -/

theorem prepares_iff (houses : before.Houses artifacts home) (ready : Disk) :
    Prepares artifacts before ready ↔
      ∃ text source expected, home.text? before .fixture = some text ∧
        Fixture.sections text = [source, expected] ∧
        home.IsOpen before .source ∧
        home.IsOpen before .expected ∧
        home.IsOpen (home.split before source expected) .generated ∧
        ready = (home.split before source expected).erase (home.place .generated) := by
  constructor
  · rintro ⟨content, source, expected, first, second, isRead, isPair, isFirst, isSecond, isReady⟩
    have isText := (houses.text?_iff .fixture _).mpr ⟨content, isRead, rfl⟩
    obtain ⟨sourceOpen, rfl⟩ := (houses.write_eq_ok_iff .source _ first).mp isFirst
    have firstHouses := houses.store (Text.encode source) sourceOpen
    obtain ⟨secondOpen, rfl⟩ := (firstHouses.write_eq_ok_iff .expected _ second).mp isSecond
    have expectedOpen : home.IsOpen before .expected := by
      simpa using secondOpen
    have splitHouses := houses.split source expected sourceOpen expectedOpen
    exact ⟨_, source, expected, isText, isPair, sourceOpen, expectedOpen,
      (splitHouses.remove_iff .generated ready).mp isReady⟩
  · rintro ⟨text, source, expected, isText, isPair, sourceOpen, expectedOpen, isReady⟩
    obtain ⟨content, isRead, rfl⟩ := (houses.text?_iff .fixture text).mp isText
    have splitHouses := houses.split source expected sourceOpen expectedOpen
    have firstHouses := houses.store (Text.encode source) sourceOpen
    refine ⟨content, source, expected, _, home.split before source expected, isRead, isPair,
      houses.write_of_open .source _ sourceOpen,
      firstHouses.write_of_open .expected _ (by simpa using expectedOpen),
      (splitHouses.remove_iff .generated ready).mpr isReady⟩

theorem rewrites_iff {call : Call} (houses : before.Houses (ofFixture path) home)
    (confined : Confined call.host call.settings (ofFixture path)) (generated : Text) :
    call.Rewrites path before generated ↔ call.mode = .update ∧
      ∃ source left, Rewriting call.host call.settings (ofFixture path) home before
        source generated left := by
  constructor
  · rintro ⟨isUpdate, ready, output, compiled, raw, seen, compared, left, content, prepares, ran,
      succeeded, isRaw, isSeen, ranAgain, differed, isContent, isGenerated⟩
    obtain ⟨text, source, expected, isText, isPair, sourceOpen, expectedOpen, generatedOpen,
      rfl⟩ := (prepares_iff houses ready).mp prepares
    have splitHouses := houses.split source expected sourceOpen expectedOpen
    obtain ⟨_, compiledHouses⟩ :=
      ran.houses confined.compiles (splitHouses.erase generatedOpen) (by simp)
    have isRawText := (compiledHouses.text?_iff .generated _).mpr ⟨raw, isRaw, rfl⟩
    obtain ⟨compiledOpen, rfl⟩ := (compiledHouses.write_eq_ok_iff .generated _ seen).mp isSeen
    obtain ⟨_, leftHouses⟩ :=
      ranAgain.houses confined.compares (compiledHouses.store _ compiledOpen) (by simp)
    have isLeftText := (leftHouses.text?_iff .generated _).mpr ⟨content, isContent, isGenerated⟩
    exact ⟨isUpdate, source, left, text, expected, output, compiled, _, compared, isText, isPair,
      sourceOpen, expectedOpen, generatedOpen, ran, succeeded, isRawText, ranAgain, differed,
      isLeftText⟩
  · rintro ⟨isUpdate, source, left, text, expected, output, compiled, rawText, compared, isText,
      isPair, sourceOpen, expectedOpen, generatedOpen, ran, succeeded, isRawText, ranAgain,
      differed, isLeftText⟩
    have splitHouses := houses.split source expected sourceOpen expectedOpen
    obtain ⟨_, compiledHouses⟩ :=
      ran.houses confined.compiles (splitHouses.erase generatedOpen) (by simp)
    have compiledOpen := Home.open_of_text? isRawText
    obtain ⟨raw, isRaw, rfl⟩ := (compiledHouses.text?_iff .generated rawText).mp isRawText
    obtain ⟨_, leftHouses⟩ :=
      ranAgain.houses confined.compares (compiledHouses.store _ compiledOpen) (by simp [shown])
    obtain ⟨content, isContent, isGenerated⟩ :=
      (leftHouses.text?_iff .generated generated).mp isLeftText
    have prepares := (prepares_iff houses _).mpr
      ⟨text, source, expected, isText, isPair, sourceOpen, expectedOpen, generatedOpen, rfl⟩
    exact ⟨isUpdate, _, output, compiled, raw, _, compared, left, content, prepares, ran,
      succeeded, isRaw, compiledHouses.write_of_open .generated _ compiledOpen, ranAgain, differed,
      isContent, isGenerated⟩

/-! ### One call -/

/-- The fixture is split into the source, and nothing is in the way. -/
structure Keeps (artifacts : Artifacts) (home : Home) (source : Text) (disk : Disk) : Prop where
  houses : disk.Houses artifacts home
  sourceOpen : disk.entryAt? (home.place .source) ≠ some .folder
  expectedOpen : disk.entryAt? (home.place .expected) ≠ some .folder
  isPair : ∃ text expected, home.text? disk .fixture = some text ∧
    Fixture.sections text = [source, expected]

def IsSpoiled (path : Path) (disk : Disk) : Prop :=
  ∃ content, disk.read path = .ok content ∧
    (Fixture.sections (Text.decode content)).length ≠ 2

variable {source : Text} {call : Call} {workspace : Workspace}

theorem IsSpoiled.run_eq (call : Call) (spoiled : IsSpoiled path workspace.disk) :
    (call.run path workspace).1 = .ok .malformed ∧
      (call.run path workspace).2.disk = workspace.disk := by
  obtain ⟨content, isRead, isNoPair⟩ := spoiled
  obtain ⟨log, ran, _⟩ :=
    runFixture_ends_malformed call.host call.settings call.mode isRead isNoPair _ rfl
  rw [Call.run, ran]
  exact ⟨rfl, rfl⟩

theorem Course.ne_malformed {settings : Settings} {host : Host} {mode : RunMode}
    {final : Disk} {started : List Invocation} (keeps : Keeps artifacts home source before) :
    ¬ Course host settings mode artifacts home before (.ok .malformed) final started := by
  intro course
  obtain ⟨text, expected, isText, isPair⟩ := keeps.isPair
  obtain ⟨left, classified, _⟩ := course.classified
  have compiling :=
    classified.compiling_of_pair isText isPair keeps.sourceOpen keeps.expectedOpen
  cases compiling with
  | compiled generatedOpen ran producing =>
      cases producing with
      | unsuccessful failed logging => cases logging
      | missing succeeded isNoFile logging => cases logging
      | produced succeeded isRaw comparing =>
          cases comparing with
          | compared ranAgain verdict =>
              cases verdict with
              | mismatched differed isNoUpdate logging => cases logging

/-- A call keeps the source unless it writes a text with the delimiter back; then the fixture
is spoiled. -/
theorem Keeps.step (keeps : Keeps (ofFixture path) home source workspace.disk)
    (confined : Confined call.host call.settings (ofFixture path)) :
    (∃ generated, call.Rewrites path workspace.disk generated ∧
        Fixture.delimiter <:+: generated) ∧
      IsSpoiled path (call.run path workspace).2.disk ∨
    (¬ ∃ generated, call.Rewrites path workspace.disk generated ∧
        Fixture.delimiter <:+: generated) ∧
      Keeps (ofFixture path) home source (call.run path workspace).2.disk := by
  obtain ⟨text, expected, isText, isPair⟩ := keeps.isPair
  obtain ⟨result, final, started, course, ends⟩ :=
    runFixture_ends call.mode confined keeps.houses
  obtain ⟨log, ran, _⟩ := ends _ rfl
  have isLeft : (call.run path workspace).2.disk = final := by
    rw [Call.run, ran]
  obtain ⟨finalHouses, staysOpen, fixture⟩ := course.leaves_fixture confined keeps.houses
  have sourceOpen := staysOpen .source (by simp) keeps.sourceOpen
  have expectedOpen := staysOpen .expected (by simp) keeps.expectedOpen
  rw [isLeft]
  rcases fixture with ⟨isUpdate, from_, generated, seen, rewriting, isFile⟩ | ⟨never, isSame⟩
  · have isAssembled := Home.text?_of_file isFile
    have isSource : Fixture.IsSource source :=
      ((Fixture.sections_eq_pair_iff _ _ _).mp isPair).2.1
    obtain ⟨textAgain, _, isTextAgain, isPairAgain⟩ := rewriting.sections_eq
    obtain ⟨rfl, _⟩ := Home.sections_unique isText isPair isTextAgain isPairAgain
    by_cases isPresent : Fixture.delimiter <:+: generated
    · have rewrites := (rewrites_iff keeps.houses confined generated).mpr
        ⟨isUpdate, from_, seen, rewriting⟩
      obtain ⟨content, isRead, isDecoded⟩ := (finalHouses.text?_iff .fixture _).mp isAssembled
      refine Or.inl ⟨⟨generated, rewrites, isPresent⟩, content, isRead, ?_⟩
      rw [isDecoded]
      have isMore := Fixture.two_lt_length_sections_assemble from_ generated isSource isPresent
      omega
    · refine Or.inr ⟨?_, finalHouses, sourceOpen, expectedOpen, _, _, isAssembled,
        (Fixture.sections_assemble_iff from_ generated).mpr ⟨isSource, isPresent⟩⟩
      rintro ⟨other, rewritesOther, isPresentOther⟩
      obtain ⟨_, _, _, rewritingOther⟩ :=
        (rewrites_iff keeps.houses confined other).mp rewritesOther
      obtain ⟨_, rfl⟩ := rewriting.unique rewritingOther
      exact isPresent isPresentOther
  · refine Or.inr ⟨?_, finalHouses, sourceOpen, expectedOpen, text, expected,
      (Home.text?_of_entry isSame).trans isText, isPair⟩
    rintro ⟨generated, rewrites, _⟩
    obtain ⟨isUpdate, from_, seen, rewriting⟩ :=
      (rewrites_iff keeps.houses confined generated).mp rewrites
    exact never ⟨isUpdate, from_, generated, seen, rewriting⟩

/-! ### All calls -/

theorem runCalls_cons (path : Path) (call : Call) (rest : List Call) (before : Workspace) :
    runCalls path (call :: rest) before = runCalls path rest (call.run path before).2 := rfl

theorem IsSpoiled.runCalls_eq (calls : List Call) (spoiled : IsSpoiled path workspace.disk) :
    (runCalls path calls workspace).disk = workspace.disk := by
  induction calls generalizing workspace with
  | nil => rfl
  | cons call rest ih =>
      have isSame := (spoiled.run_eq call).2
      rw [runCalls_cons, ih (isSame ▸ spoiled), isSame]

theorem spoils_cons (path : Path) (call : Call) (rest : List Call) (before : Workspace) :
    Spoils path (call :: rest) before ↔
      (∃ generated, call.Rewrites path before.disk generated ∧
        Fixture.delimiter <:+: generated) ∨
      Spoils path rest (call.run path before).2 := by
  constructor
  · rintro ⟨earlier, chosen, later, generated, isCut, rewrites, isPresent⟩
    cases earlier with
    | nil =>
        obtain ⟨rfl, rfl⟩ := List.cons.inj isCut
        exact Or.inl ⟨generated, rewrites, isPresent⟩
    | cons first between =>
        obtain ⟨rfl, rfl⟩ := List.cons.inj isCut
        exact Or.inr ⟨between, chosen, later, generated, rfl, rewrites, isPresent⟩
  · rintro (⟨generated, rewrites, isPresent⟩ |
      ⟨earlier, chosen, later, generated, rfl, rewrites, isPresent⟩)
    · exact ⟨[], call, rest, generated, rfl, rewrites, isPresent⟩
    · exact ⟨call :: earlier, chosen, later, generated, rfl, rewrites, isPresent⟩

theorem Keeps.calls {calls : List Call}
    (keeps : Keeps (ofFixture path) home source workspace.disk)
    (confined : ∀ call ∈ calls, Confined call.host call.settings (ofFixture path)) :
    Spoils path calls workspace ∧ IsSpoiled path (runCalls path calls workspace).disk ∨
    ¬ Spoils path calls workspace ∧
      Keeps (ofFixture path) home source (runCalls path calls workspace).disk := by
  induction calls generalizing workspace with
  | nil =>
      refine Or.inr ⟨?_, keeps⟩
      rintro ⟨earlier, _, _, _, isCut, _⟩
      simp at isCut
  | cons call rest ih =>
      rw [spoils_cons, runCalls_cons]
      obtain ⟨confinedNow, confinedLater⟩ := List.forall_mem_cons.mp confined
      rcases keeps.step confinedNow with ⟨spoilsNow, spoiled⟩ | ⟨keepsNow, keepsStill⟩
      · refine Or.inl ⟨Or.inl spoilsNow, ?_⟩
        rw [spoiled.runCalls_eq rest]
        exact spoiled
      · rcases ih keepsStill confinedLater with ⟨spoilsLater, spoiled⟩ | ⟨never, keepsLast⟩
        · exact Or.inl ⟨Or.inr spoilsLater, spoiled⟩
        · refine Or.inr ⟨?_, keepsLast⟩
          rintro (spoilsNow | spoilsLater)
          · exact keepsNow spoilsNow
          · exact never spoilsLater

theorem exists_keeps {divided : Workspace} (isFixture : path.isFixture = true)
    (noLinks : (ofFixture path).NoLinks workspace.disk)
    (accepted : (ofFixture path).split.run workspace = (.ok .written, divided))
    (isSource : divided.disk.read (ofFixture path).source = .ok (Text.encode source)) :
    ∃ home, Keeps (ofFixture path) home source workspace.disk := by
  obtain ⟨home, houses⟩ := Artifacts.houses_of_split isFixture noLinks accepted
  obtain ⟨text, first, expected, isText, isPair, sourceOpen, expectedOpen, isLeft⟩ :=
    Artifacts.split_eq_written houses accepted
  have reads := Artifacts.read_split (houses.split first expected sourceOpen expectedOpen)
  rw [isLeft, reads.1] at isSource
  obtain rfl := Text.encode_injective (Except.ok.inj isSource)
  exact ⟨home, houses, sourceOpen, expectedOpen, text, expected, isText, isPair⟩

theorem Keeps.split_eq (keeps : Keeps artifacts home source workspace.disk) :
    ∃ again, artifacts.split.run workspace = (.ok .written, again) ∧
      again.disk.read artifacts.source = .ok (Text.encode source) := by
  obtain ⟨text, expected, isText, isPair⟩ := keeps.isPair
  obtain ⟨log, ran, _⟩ := Artifacts.split_ends_written keeps.houses isText isPair
    keeps.sourceOpen keeps.expectedOpen _ rfl
  exact ⟨_, ran,
    (Artifacts.read_split (keeps.houses.split _ _ keeps.sourceOpen keeps.expectedOpen)).1⟩

theorem Keeps.run_ne (keeps : Keeps (ofFixture path) home source workspace.disk)
    (confined : Confined call.host call.settings (ofFixture path)) :
    (call.run path workspace).1 ≠ .ok .malformed := by
  obtain ⟨result, final, started, course, ends⟩ :=
    runFixture_ends call.mode confined keeps.houses
  obtain ⟨log, ran, _⟩ := ends _ rfl
  rw [Call.run, ran]
  rintro rfl
  exact Course.ne_malformed keeps course

theorem IsSpoiled.split_eq (spoiled : IsSpoiled path workspace.disk) :
    ∃ count again, (ofFixture path).split.run workspace =
      (.ok (.malformed count), again) ∧ again.disk = workspace.disk := by
  obtain ⟨content, isRead, isNoPair⟩ := spoiled
  have isReadFixture : workspace.disk.read (ofFixture path).fixture = .ok content :=
    isRead
  obtain ⟨log, ran, _⟩ := Artifacts.split_ends_malformed isReadFixture isNoPair _ rfl
  exact ⟨_, _, ran, rfl⟩

/-- Calls one after another, in any modes, with programs that write the generated file only.
A fixture that was split into a source is split into it again after all of them exactly if
no update has written a text with the delimiter back.  Otherwise it is malformed from then
on, for splitting and for every later run. -/
theorem split_after_calls {before divided : Workspace} {calls : List Call}
    (isFixture : path.isFixture = true)
    (noLinks : (Artifacts.ofFixture path).NoLinks before.disk)
    (accepted : (Artifacts.ofFixture path).split.run before = (.ok .written, divided))
    (isSource : divided.disk.read (Artifacts.ofFixture path).source = .ok (Text.encode source))
    (confined : ∀ call ∈ calls, Confined call.host call.settings (Artifacts.ofFixture path)) :
    ((∃ again, (Artifacts.ofFixture path).split.run (runCalls path calls before) =
          (.ok .written, again) ∧
        again.disk.read (Artifacts.ofFixture path).source = .ok (Text.encode source)) ↔
      ¬ Spoils path calls before) ∧
    (Spoils path calls before →
      ∃ count again, (Artifacts.ofFixture path).split.run (runCalls path calls before) =
          (.ok (.malformed count), again) ∧
        again.disk = (runCalls path calls before).disk) ∧
    ∀ next : Call, Confined next.host next.settings (Artifacts.ofFixture path) →
      ((next.run path (runCalls path calls before)).1 = .ok .malformed ↔
        Spoils path calls before) := by
  obtain ⟨home, keeps⟩ := exists_keeps isFixture noLinks accepted isSource
  rcases keeps.calls confined with ⟨spoils, spoiled⟩ | ⟨never, keepsLast⟩
  · have malformed := spoiled.split_eq
    refine ⟨iff_of_false ?_ (not_not_intro spoils), fun _ => malformed, fun next _ => ?_⟩
    · rintro ⟨again, isSplit, _⟩
      obtain ⟨count, _, isMalformed, _⟩ := malformed
      rw [isSplit] at isMalformed
      cases (Prod.mk.inj isMalformed).1
    · exact iff_of_true (spoiled.run_eq next).1 spoils
  · refine ⟨iff_of_true keepsLast.split_eq never, fun spoils => absurd spoils never,
      fun next confinedNext => ?_⟩
    exact iff_of_false (keepsLast.run_ne confinedNext) never

def updateWriting (content : String) : Call :=
  ⟨differingHost content, sampleSettings, .update⟩

theorem updateWriting_confined (content : String) :
    Confined (updateWriting content).host (updateWriting content).settings
      (ofFixture ⟨"a.tst"⟩) := by
  rw [sampleArtifacts_eq]
  exact ⟨sampleHost_writesOnly _, sampleHost_writesOnly _⟩

/-- After an update with a plain text the source is still there.  After another one whose text
is the delimiter, the fixture is malformed. -/
theorem split_after_calls_delimiter :
    (∃ again, (Artifacts.ofFixture ⟨"a.tst"⟩).split.run
        (runCalls ⟨"a.tst"⟩ [updateWriting "z\n"] { disk := staleDisk }) = (.ok .written, again) ∧
      again.disk.read (Artifacts.ofFixture ⟨"a.tst"⟩).source = .ok (Text.encode "x\n".toList)) ∧
    ∃ count again, (Artifacts.ofFixture ⟨"a.tst"⟩).split.run
        (runCalls ⟨"a.tst"⟩ [updateWriting "z\n", updateWriting "========\n"]
          { disk := staleDisk }) = (.ok (.malformed count), again) ∧
      again.disk = (runCalls ⟨"a.tst"⟩ [updateWriting "z\n", updateWriting "========\n"]
        { disk := staleDisk }).disk := by
  have noLinks : (Artifacts.ofFixture ⟨"a.tst"⟩).NoLinks
      { disk := staleDisk : Workspace }.disk := staleDisk_noLinks
  have isWritten : ((Artifacts.ofFixture ⟨"a.tst"⟩).split.run { disk := staleDisk }).1 =
      .ok .written := by
    decide +kernel
  have isSource : ((Artifacts.ofFixture ⟨"a.tst"⟩).split.run { disk := staleDisk }).2.disk.read
      (Artifacts.ofFixture ⟨"a.tst"⟩).source = .ok (Text.encode "x\n".toList) := by
    decide +kernel
  have accepted := Action.run_eq_of_result _ isWritten
  obtain ⟨keeps, _, isExactly⟩ := split_after_calls sampleIsFixture noLinks accepted isSource
    (List.forall_mem_singleton.mpr (updateWriting_confined "z\n"))
  obtain ⟨_, malformed, isExactlyThen⟩ :=
    split_after_calls sampleIsFixture noLinks accepted isSource
    (List.forall_mem_cons.mpr ⟨updateWriting_confined "z\n",
      List.forall_mem_singleton.mpr (updateWriting_confined "========\n")⟩)
  have isNotMalformed : ((updateWriting "z\n").run ⟨"a.tst"⟩
      (runCalls ⟨"a.tst"⟩ [updateWriting "z\n"] { disk := staleDisk })).1 ≠ .ok .malformed := by
    decide +kernel
  have isMalformed : ((updateWriting "z\n").run ⟨"a.tst"⟩
      (runCalls ⟨"a.tst"⟩ [updateWriting "z\n", updateWriting "========\n"]
        { disk := staleDisk })).1 = .ok .malformed := by
    decide +kernel
  exact ⟨keeps.mpr fun spoils =>
      isNotMalformed ((isExactly _ (updateWriting_confined "z\n")).mpr spoils),
    malformed ((isExactlyThen _ (updateWriting_confined "z\n")).mp isMalformed)⟩

end Batch

end FixtureRunner
