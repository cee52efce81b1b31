/-
What a batch has written and done when it stops.

A batch runs a fixture, writes its line, and goes on to the next one.  It can stop at each of
these steps.  Wherever it stops, the lines written are those of the fixtures before, and the disk
is the one that the calls up to this fixture leave, one after another.  Only a name that holds a
newline can leave a part of a line on the console, if the limit of the console lies inside it.
-/

import FixtureRunner.Proofs.Batch.Cleaning
import FixtureRunner.Proofs.Silent
import FixtureRunner.Proofs.Text.Lines

namespace FixtureRunner

open FixtureRunner.Action

theorem Action.silent_composes : Composes Silent :=
  ⟨silent_pure, Silent.bind, silent_disk, silent_record, silent_readBytes⟩

namespace Batch

theorem runFixture_silent (host : Host) (settings : Settings) (mode : RunMode) (path : Path) :
    Silent (runFixture host settings mode path) := by
  have upkeep : (Artifacts.ofFixture path).Upkeep Silent :=
    ⟨silent_composes, fun derived _ => silent_writeBytes derived,
      fun derived _ => silent_removeIfPresent derived⟩
  have requests : Requests Silent host settings (Artifacts.ofFixture path) :=
    ⟨upkeep, silent_writeBytes path, silent_run host _, silent_run host _⟩
  exact requests.runFixture mode

/-! ### Calls in order -/

/-- The fixtures are run one after another, each on the disk that the one before has left: what
each returns, and the disk in the end. -/
def callEach (host : Host) (settings : Settings) (mode : RunMode) :
    List Path → Disk → List (Except Failure Outcome) × Disk
  | [], disk => ([], disk)
  | path :: rest, disk =>
      let (result, left) := (runFixture host settings mode path).callOn disk
      let (later, last) := callEach host settings mode rest left
      (result :: later, last)

/-- A line without its newline: the name, blanks up to the length of the longest, the outcome. -/
def statusText (longest : Nat) (name : String) (outcome : Outcome) : Text :=
  name.toList ++ List.replicate (longest - name.toList.length) ' ' ++ " = ".toList ++
    outcome.label.toList

def statusLines (name : Path → String) (longest : Nat) (done : List (Path × Outcome)) : Text :=
  done.flatMap fun (path, outcome) => statusText longest (name path) outcome ++ ['\n']

/-- No name is longer, and one is as long. -/
def IsLongest (names : List String) (longest : Nat) : Prop :=
  (∀ name ∈ names, name.toList.length ≤ longest) ∧ ∃ name ∈ names, name.toList.length = longest

section Transcripts

variable (host : Host) (settings : Settings) (mode : RunMode) (name : Path → String)
  (longest : Nat)

/-- All fixtures are run, and end as listed. -/
structure CallsAll (fixtures : List Path) (disk : Disk) (done : List (Path × Outcome))
    (left : Disk) : Prop where
  isAll : fixtures = done.map Prod.fst
  calls : callEach host settings mode fixtures disk = (done.map fun call => .ok call.2, left)

/-- The first fixtures are run and end as listed, then one more, and none after it. -/
structure CallsTo (fixtures : List Path) (disk : Disk) (done : List (Path × Outcome)) (path : Path)
    (last : Except Failure Outcome) (left : Disk) : Prop where
  isCut : done.map Prod.fst ++ [path] <+: fixtures
  calls : callEach host settings mode (done.map Prod.fst ++ [path]) disk =
    ((done.map fun call => .ok call.2) ++ [last], left)

/-- How far a batch gets with the lines of its fixtures, from a disk and a console, and the part of
a line that it leaves at the end. -/
inductive Listing (fixtures : List Path) (disk : Disk) (console : Console) :
    Except Failure (List (Path × Outcome)) → Text → Workspace → Prop
  | complete {done : List (Path × Outcome)} {after : Workspace}
      (calls : CallsAll host settings mode fixtures disk done after.disk)
      (isShown : after.console = console.append (statusLines name longest done)) :
      Listing fixtures disk console (.ok done) [] after
  | failed {done : List (Path × Outcome)} {path : Path} {failure : Failure} {after : Workspace}
      (calls : CallsTo host settings mode fixtures disk done path (.error failure) after.disk)
      (isShown : after.console = console.append (statusLines name longest done)) :
      Listing fixtures disk console (.error failure) [] after
  /-- The fixture is run, and the console is closed to its line. -/
  | refused {done : List (Path × Outcome)} {path : Path} {outcome : Outcome} {after : Workspace}
      (calls : CallsTo host settings mode fixtures disk done path (.ok outcome) after.disk)
      (isShown : after.console = console.append (statusLines name longest done))
      (isClosed : after.console.isClosed = true) :
      Listing fixtures disk console (.error (.access consolePath .writerClosed)) [] after
  /-- The fixture is run, and its line closes the open console before its end. -/
  | interrupted {done : List (Path × Outcome)} {path : Path} {outcome : Outcome}
      {after : Workspace}
      (calls : CallsTo host settings mode fixtures disk done path (.ok outcome) after.disk)
      (wasOpen : (console.append (statusLines name longest done)).isClosed = false)
      (isShown : after.console = console.append
        (statusLines name longest done ++ statusText longest (name path) outcome))
      (isClosed : after.console.isClosed = true) :
      Listing fixtures disk console (.error (.access consolePath .writerClosed))
        (statusText longest (name path) outcome) after

def reportOn (done : List (Path × Outcome)) : Report :=
  { mode, records := done.map fun (path, outcome) => ⟨name path, outcome⟩ }

/-- What a batch that runs its fixtures has written and done in the end, and the part of a line that
it leaves. -/
inductive Transcript (fixtures : List Path) (disk : Disk) (console : Console) :
    Except Failure Report → Text → Workspace → Prop
  | finished {done : List (Path × Outcome)} {after : Workspace}
      (calls : CallsAll host settings mode fixtures disk done after.disk)
      (isShown : after.console = console.append (statusLines name longest done ++
        ((reportOn mode name done).summaryLine.toList ++ ['\n']))) :
      Transcript fixtures disk console (.ok (reportOn mode name done)) [] after
  /-- The console is closed to the summary. -/
  | unsummarized {done : List (Path × Outcome)} {after : Workspace}
      (calls : CallsAll host settings mode fixtures disk done after.disk)
      (isShown : after.console = console.append (statusLines name longest done))
      (isClosed : after.console.isClosed = true) :
      Transcript fixtures disk console (.error (.access consolePath .writerClosed)) [] after
  | stopped {failure : Failure} {begun : Text} {after : Workspace}
      (listing : Listing host settings mode name longest fixtures disk console (.error failure)
        begun after) :
      Transcript fixtures disk console (.error failure) begun after

end Transcripts

end Batch

/-! ### The console -/

namespace Console

/-- Each line, with those before it on the console, is refused at once or taken to its end. -/
def TakesWholeLines (console : Console) (lines : List Text) : Prop :=
  ∀ (index : Nat) (isLine : index < lines.length),
    (console.append (Text.unlines (lines.take index))).isClosed = true ∨
      (console.append (Text.unlines (lines.take index) ++ lines[index])).isClosed = false

instance (console : Console) (lines : List Text) : Decidable (console.TakesWholeLines lines) :=
  inferInstanceAs (Decidable (∀ (index : Nat) (_ : index < lines.length), _))

@[simp] theorem append_append (console : Console) (text more : Text) :
    (console.append text).append more = console.append (text ++ more) := by
  simp only [append, List.append_assoc]

@[simp] theorem append_nil (console : Console) : console.append [] = console := by
  simp only [append, List.append_nil]

/-- Whether a console is closed depends on the newlines alone. -/
theorem isClosed_append_congr (console : Console) {text other : Text}
    (same : text.count '\n' = other.count '\n') :
    (console.append text).isClosed = (console.append other).isClosed := by
  simp only [isClosed, append, List.count_append, same]

theorem isClosed_append_of_notMem (console : Console) {text : Text} (isPlain : '\n' ∉ text) :
    (console.append text).isClosed = console.isClosed := by
  simp only [isClosed, append, List.count_append, List.count_eq_zero.mpr isPlain, Nat.add_zero]

/-- Lines without a newline are taken whole, whatever the limit is. -/
theorem takesWholeLines_of_notMem (console : Console) {lines : List Text}
    (arePlain : ∀ line ∈ lines, '\n' ∉ line) : console.TakesWholeLines lines := by
  intro index isLine
  rw [← append_append, isClosed_append_of_notMem _ (arePlain _ (List.getElem_mem isLine))]
  exact Bool.eq_false_or_eq_true _

/-- A console that is closed takes nothing of a line.  An open one takes the line, and its newline
too unless the line has closed it. -/
theorem writeLine_cases (console : Console) (line : Text) :
    (console.isClosed = true ∧ console.writeLine line = (some .writerClosed, console)) ∨
      (console.isClosed = false ∧ (console.append line).isClosed = true ∧
        console.writeLine line = (some .writerClosed, console.append line)) ∨
      console.writeLine line = (none, console.append (line ++ ['\n'])) := by
  by_cases isClosed : console.isClosed = true
  · exact Or.inl ⟨isClosed, by simp [writeLine, write, isClosed]⟩
  · rw [Bool.not_eq_true] at isClosed
    by_cases closes : (console.append line).isClosed = true
    · exact Or.inr (Or.inl ⟨isClosed, closes, by simp [writeLine, write, isClosed, closes]⟩)
    · exact Or.inr (Or.inr (by simp [writeLine, write, isClosed, closes]))

end Console

theorem Action.emit_cases (workspace : Workspace) (line : String) :
    (workspace.console.isClosed = true ∧
        (emit line).run workspace = (.error (.access consolePath .writerClosed), workspace)) ∨
      (workspace.console.isClosed = false ∧
        (workspace.console.append line.toList).isClosed = true ∧
        (emit line).run workspace = (.error (.access consolePath .writerClosed),
          { workspace with console := workspace.console.append line.toList })) ∨
      (emit line).run workspace = (.ok (),
        { workspace with console := workspace.console.append (line.toList ++ ['\n']) }) := by
  rw [run_emit]
  rcases workspace.console.writeLine_cases line.toList with
    ⟨isClosed, isLine⟩ | ⟨isOpen, closes, isLine⟩ | isLine
  · rw [isLine]
    exact Or.inl ⟨isClosed, rfl⟩
  · rw [isLine]
    exact Or.inr (Or.inl ⟨isOpen, closes, rfl⟩)
  · rw [isLine]
    exact Or.inr (Or.inr rfl)

namespace Batch

/-! ### Lines -/

theorem line_eq_statusText (longest : Nat) (name : String) (outcome : Outcome) :
    (StatusLine.line longest name outcome).toList = statusText longest name outcome := by
  rw [StatusLine.line, String.toList_ofList]
  rfl

/-- A line holds the newlines of the name alone. -/
theorem count_statusText (longest : Nat) (name : String) (outcome : Outcome) :
    (statusText longest name outcome).count '\n' = name.toList.count '\n' := by
  have isNoLabel : outcome.label.toList.count '\n' = 0 := by cases outcome <;> decide
  simp [statusText, List.count_append, List.count_replicate, isNoLabel]

theorem newline_notMem_summaryLine (report : Report) : '\n' ∉ report.summaryLine.toList := by
  have isNoNumber (value : Nat) : '\n' ∉ (toString value).toList := by
    intro isThere
    rw [Nat.toString_eq_repr, Nat.toList_repr] at isThere
    have isDigit := Nat.isDigit_of_mem_toDigits (by decide) (by decide) isThere
    exact absurd isDigit (by decide)
  simp only [Report.summaryLine, String.toList_append, List.mem_append, not_or]
  exact ⟨⟨⟨isNoNumber _, by decide⟩, isNoNumber _⟩, by decide⟩

theorem width_isLongest {names : List String} (isNonempty : names ≠ []) :
    IsLongest names (StatusLine.width names) := by
  have isMost : (0 :: names.map fun name => name.toList.length).max? =
      some (StatusLine.width names) := by
    rw [List.max?_cons', List.foldl_map]
    rfl
  obtain ⟨isOne, areShorter⟩ := List.max?_eq_some_iff.mp isMost
  have isShorter (name : String) (member : name ∈ names) :
      name.toList.length ≤ StatusLine.width names :=
    areShorter _ (List.mem_cons_of_mem _ (List.mem_map_of_mem member))
  refine ⟨isShorter, ?_⟩
  rcases List.mem_cons.mp isOne with isZero | isMember
  · -- All names are empty then, and there is one.
    obtain ⟨name, member⟩ := List.exists_mem_of_ne_nil names isNonempty
    have isEmpty := isShorter name member
    exact ⟨name, member, by omega⟩
  · obtain ⟨name, member, isLength⟩ := List.mem_map.mp isMember
    exact ⟨name, member, isLength⟩

section Runs

@[simp] theorem statusLines_nil (name : Path → String) (longest : Nat) :
    statusLines name longest [] = [] := rfl

theorem statusLines_cons (name : Path → String) (longest : Nat) (path : Path) (outcome : Outcome)
    (done : List (Path × Outcome)) :
    statusLines name longest ((path, outcome) :: done) =
      (statusText longest (name path) outcome ++ ['\n']) ++ statusLines name longest done := rfl

variable {host : Host} {settings : Settings} {mode : RunMode} {name : Path → String}
  {longest : Nat}

section Calls

variable {path : Path} {outcome : Outcome} {rest : List Path} {disk left last : Disk}
  {done : List (Path × Outcome)}

theorem callEach_cons_eq {result : Except Failure Outcome} {later : List (Except Failure Outcome)}
    (called : (runFixture host settings mode path).callOn disk = (result, left))
    (calls : callEach host settings mode rest left = (later, last)) :
    callEach host settings mode (path :: rest) disk = (result :: later, last) := by
  rw [callEach, called]
  simp only [calls]

theorem callsTo_first {result : Except Failure Outcome}
    (called : (runFixture host settings mode path).callOn disk = (result, left)) :
    CallsTo host settings mode (path :: rest) disk [] path result left :=
  ⟨List.prefix_append [path] rest, callEach_cons_eq called rfl⟩

variable (called : (runFixture host settings mode path).callOn disk = (.ok outcome, left))

include called

theorem CallsAll.cons (later : CallsAll host settings mode rest left done last) :
    CallsAll host settings mode (path :: rest) disk ((path, outcome) :: done) last :=
  ⟨congrArg _ later.isAll, callEach_cons_eq called later.calls⟩

theorem CallsTo.cons {next : Path} {result : Except Failure Outcome}
    (later : CallsTo host settings mode rest left done next result last) :
    CallsTo host settings mode (path :: rest) disk ((path, outcome) :: done) next result last :=
  ⟨(List.prefix_cons_inj path).mpr later.isCut, callEach_cons_eq called later.calls⟩

end Calls

theorem count_statusLines (done : List (Path × Outcome)) :
    (statusLines name longest done).count '\n' =
      (Text.unlines (done.map fun call => (name call.1).toList)).count '\n' := by
  induction done with
  | nil => rfl
  | cons call done ih =>
      obtain ⟨path, outcome⟩ := call
      simp only [statusLines_cons, List.map_cons, Text.unlines_cons, List.append_assoc,
        List.singleton_append, List.count_append, List.count_cons, count_statusText, ih]

variable {before after : Workspace} {console : Console} {disk : Disk} {begun : Text}

theorem Listing.cons {path : Path} {outcome : Outcome} {rest : List Path} {left : Disk}
    {listed : Except Failure (List (Path × Outcome))}
    (called : (runFixture host settings mode path).callOn disk = (.ok outcome, left))
    (listing : Listing host settings mode name longest rest left
      (console.append (statusText longest (name path) outcome ++ ['\n'])) listed begun after) :
    Listing host settings mode name longest (path :: rest) disk console
      (listed.map ((path, outcome) :: ·)) begun after := by
  have shown (done : List (Path × Outcome)) (text : Text) :
      (console.append (statusText longest (name path) outcome ++ ['\n'])).append
          (statusLines name longest done ++ text) =
        console.append (statusLines name longest ((path, outcome) :: done) ++ text) := by
    rw [Console.append_append, ← List.append_assoc, ← statusLines_cons]
  have shownAlone (done : List (Path × Outcome)) := shown done []
  simp only [List.append_nil] at shownAlone
  cases listing with
  | complete calls isShown => exact .complete (calls.cons called) (isShown.trans (shownAlone _))
  | failed calls isShown => exact .failed (calls.cons called) (isShown.trans (shownAlone _))
  | refused calls isShown isClosed =>
      exact .refused (calls.cons called) (isShown.trans (shownAlone _)) isClosed
  | interrupted calls wasOpen isShown isClosed =>
      rw [shownAlone] at wasOpen
      exact .interrupted (calls.cons called) wasOpen (isShown.trans (shown _ _)) isClosed

theorem runEach_lists (fixtures : List Path) (report : Report) {result : Except Failure Report}
    (ran : (runEach host settings mode longest (fixtures.map fun path => (path, name path))
      report).run before = (result, after)) :
    ∃ listed begun, Listing host settings mode name longest fixtures before.disk before.console
        listed begun after ∧
      result = listed.map (report.addAll name) := by
  induction fixtures generalizing report before with
  | nil =>
      obtain ⟨rfl, rfl⟩ := Prod.mk.inj ran
      refine ⟨.ok [], [], .complete ⟨rfl, rfl⟩ (by simp), ?_⟩
      rw [Except.map, Report.addAll_nil]
  | cons path rest ih =>
      obtain ⟨log, ranFixture⟩ := runFixture_silent host settings mode path before
      rw [List.map_cons, runEach, run_bind, ranFixture] at ran
      cases called : (runFixture host settings mode path).callOn before.disk with
      | mk returned left =>
          rw [called] at ran
          cases returned with
          | error failure =>
              obtain ⟨rfl, rfl⟩ := Prod.mk.inj ran
              exact ⟨.error failure, [], .failed (callsTo_first called) (by simp), rfl⟩
          | ok outcome =>
              simp only at ran
              rcases emit_cases { before with disk := left, log := log }
                  (StatusLine.line longest (name path) outcome) with
                ⟨isClosed, isRefused⟩ | ⟨isOpen, closes, isRefused⟩ | isTaken
              · rw [run_bind_error _ _ isRefused] at ran
                obtain ⟨rfl, rfl⟩ := Prod.mk.inj ran
                exact ⟨.error (.access consolePath .writerClosed), [],
                  .refused (callsTo_first called) (by simp) isClosed, rfl⟩
              · rw [run_bind_error _ _ isRefused] at ran
                obtain ⟨rfl, rfl⟩ := Prod.mk.inj ran
                rw [line_eq_statusText] at closes ⊢
                exact ⟨.error (.access consolePath .writerClosed), _,
                  .interrupted (callsTo_first called) (by simpa using isOpen) (by simp) closes, rfl⟩
              · rw [run_bind_ok _ _ isTaken] at ran
                obtain ⟨listed, begun, listing, rfl⟩ := ih _ ran
                rw [line_eq_statusText] at listing
                refine ⟨_, begun, listing.cons called, ?_⟩
                cases listed with
                | error failure => rfl
                | ok done => simp only [Except.map, Report.addAll_add]

theorem runAll_transcript {root : Path} {fixtures : List Path} {result : Except Failure Report}
    (ran : (runAll host root fixtures settings mode).run before = (result, after)) :
    ∃ begun, Transcript host settings mode (Discovery.relativeName root)
      (StatusLine.width (fixtures.map (Discovery.relativeName root))) fixtures before.disk
      before.console result begun after := by
  rw [runAll, ← List.map_prod_left_eq_zip, run_bind] at ran
  cases ranEach : (runEach host settings mode
      (StatusLine.width (fixtures.map (Discovery.relativeName root)))
      (fixtures.map fun path => (path, Discovery.relativeName root path)) { mode }).run before with
  | mk reported between =>
      rw [ranEach] at ran
      obtain ⟨listed, begun, listing, rfl⟩ := runEach_lists fixtures _ ranEach
      cases listed with
      | error failure =>
          obtain ⟨rfl, rfl⟩ := Prod.mk.inj ran
          exact ⟨begun, .stopped listing⟩
      | ok done =>
          obtain ⟨calls, isShown⟩ := listing
          have isReport : Report.addAll { mode } (Discovery.relativeName root) done =
              reportOn mode (Discovery.relativeName root) done := by
            simp [Report.addAll, reportOn]
          simp only [Except.map, isReport] at ran
          rcases emit_cases between
              (reportOn mode (Discovery.relativeName root) done).summaryLine with
            ⟨isClosed, isRefused⟩ | ⟨isOpen, closes, isRefused⟩ | isTaken
          · rw [run_bind_error _ _ isRefused] at ran
            obtain ⟨rfl, rfl⟩ := Prod.mk.inj ran
            exact ⟨[], .unsummarized calls isShown isClosed⟩
          · -- The summary holds no newline that could close the console.
            rw [between.console.isClosed_append_of_notMem (newline_notMem_summaryLine _),
              isOpen] at closes
            cases closes
          · rw [run_bind_ok _ _ isTaken, run_bind_ok _ _ (run_record _ _), run_pure] at ran
            obtain ⟨rfl, rfl⟩ := Prod.mk.inj ran
            refine ⟨[], .finished calls ?_⟩
            simp only [isShown, Console.append_append]

/-- A console that takes whole lines is left with nothing of the line after them. -/
theorem Transcript.begun_eq_nil {fixtures : List Path} {result : Except Failure Report}
    (transcript : Transcript host settings mode name longest fixtures disk console result begun
      after)
    (takesWhole : console.TakesWholeLines (fixtures.map fun path => (name path).toList)) :
    begun = [] := by
  cases transcript with
  | finished => rfl
  | unsummarized => rfl
  | stopped listing =>
      cases listing with
      | failed => rfl
      | refused => rfl
      | @interrupted done path outcome _ calls wasOpen isShown isClosed =>
          obtain ⟨later, rfl⟩ := calls.isCut
          exfalso
          rw [isShown] at isClosed
          have sameLine : (statusLines name longest done ++ statusText longest (name path)
              outcome).count '\n' = (Text.unlines (done.map fun call => (name call.1).toList) ++
                (name path).toList).count '\n' := by
            rw [List.count_append, List.count_append, count_statusLines, count_statusText]
          rw [console.isClosed_append_congr (count_statusLines done)] at wasOpen
          rw [console.isClosed_append_congr sameLine] at isClosed
          have isTaken := takesWhole done.length (by simp)
          simp [Function.comp_def, wasOpen, isClosed] at isTaken

/-- Wherever a batch stops on a console that takes whole lines, the lines it has written and the
disk it leaves are those of the calls it has made. -/
theorem runBatch_transcript {root : Path} {fixtures : List Path} {before after : Workspace}
    {result : Except Failure Report} (isRun : mode ≠ .cleanOnly) (isNonempty : fixtures ≠ [])
    (takesWhole : before.console.TakesWholeLines
      (fixtures.map fun path => (Discovery.relativeName root path).toList))
    (ran : (runBatch host root fixtures settings mode).run before = (result, after)) :
    ∃ longest, IsLongest (fixtures.map (Discovery.relativeName root)) longest ∧
      Transcript host settings mode (Discovery.relativeName root) longest fixtures before.disk
        before.console result [] after := by
  have areNames : fixtures.map (Discovery.relativeName root) ≠ [] := by
    simpa using isNonempty
  refine ⟨_, width_isLongest areNames, ?_⟩
  rw [runBatch, run_bind_ok _ _ (run_record before _), if_neg isRun,
    if_neg (mt List.isEmpty_iff.mp isNonempty)] at ran
  obtain ⟨begun, transcript⟩ := runAll_transcript ran
  obtain rfl := transcript.begun_eq_nil takesWhole
  exact transcript

end Runs

def foldedDisk : Disk :=
  ((Disk.empty ["work"]).put ["work", "a\nb.tst"] (.file [] false)).put ["work", "c.tst"]
    (.file [] false)

def foldedFixtures : List Path := [⟨"a\nb.tst"⟩, ⟨"c.tst"⟩]

/-- The line of the first fixture has two newlines, and the console takes it whole. -/
theorem runBatch_transcript_folded :
    ∃ after longest,
      (runBatch (siblingHost id) ⟨"."⟩ foldedFixtures sampleSettings .dump).run
        { disk := foldedDisk, console := { lineLimit := some 2 } } =
          (.error (.access consolePath .writerClosed), after) ∧
      after.console.written = "a\nb.tst = [missing section]\n".toList ∧
      IsLongest (foldedFixtures.map (Discovery.relativeName ⟨"."⟩)) longest ∧
      Transcript (siblingHost id) sampleSettings .dump (Discovery.relativeName ⟨"."⟩) longest
        foldedFixtures foldedDisk { lineLimit := some 2 }
        (.error (.access consolePath .writerClosed)) [] after := by
  have isFailure : ((runBatch (siblingHost id) ⟨"."⟩ foldedFixtures sampleSettings .dump).run
      { disk := foldedDisk, console := { lineLimit := some 2 } }).1 =
        .error (.access consolePath .writerClosed) := by
    decide +kernel
  have isWritten : ((runBatch (siblingHost id) ⟨"."⟩ foldedFixtures sampleSettings .dump).run
      { disk := foldedDisk, console := { lineLimit := some 2 } }).2.console.written =
        "a\nb.tst = [missing section]\n".toList := by
    decide +kernel
  have ran := run_eq_of_result _ isFailure
  obtain ⟨longest, isLongest, transcript⟩ :=
    runBatch_transcript (by decide) (by decide) (by decide +kernel) ran
  exact ⟨_, longest, ran, isWritten, isLongest, transcript⟩

end Batch

end FixtureRunner
