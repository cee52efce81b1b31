/-
Reading the lines of a batch.

The lines of a batch are aligned to its longest name.  A label holds no separator, so a line tells
its name and outcome to a reader who cuts it at the last one, whatever the name holds.
-/

import FixtureRunner.Proofs.Batch.Transcript
import FixtureRunner.Proofs.Discovery.Walk

namespace FixtureRunner

open FixtureRunner.Action

/-! ### Single lines -/

namespace StatusLine

def separator : Text := " = ".toList

/-- The separator between the two parts stands nowhere further right. -/
def IsLastCut (line left right : Text) : Prop :=
  line = left ++ separator ++ right ∧
    ∀ front back, line = front ++ separator ++ back → front.length ≤ left.length

/-- What a reader takes from a line: in front of the last separator the name without the spaces at
its end, behind it the label. -/
def Tells (line : Text) (name : String) (outcome : Outcome) : Prop :=
  ∃ left, IsLastCut line left outcome.label.toList ∧ left.rdropWhile (· = ' ') = name.toList

/-- The line has a name, blanks up to a column, the separator and a label. -/
def IsAligned (column : Nat) (line : Text) (name : String) (outcome : Outcome) : Prop :=
  ∃ blanks, line = name.toList ++ List.replicate blanks ' ' ++ separator ++
      outcome.label.toList ∧
    name.toList.length + blanks = column

theorem find?_label (outcome : Outcome) :
    Outcome.all.find? (·.label = outcome.label) = some outcome := by
  cases outcome <;> decide

theorem label_injective {outcome other : Outcome} (same : outcome.label = other.label) :
    outcome = other := by
  have isFound := find?_label outcome
  rw [same, find?_label other] at isFound
  exact (Option.some.inj isFound).symm

theorem isLastCut_iff {left right front back : Text} (isFree : '=' ∉ right) :
    IsLastCut (left ++ separator ++ right) front back ↔ front = left ∧ back = right := by
  have isLast (front back : Text)
      (isCut : left ++ separator ++ right = front ++ separator ++ back) :
      front.length ≤ left.length := by
    by_contra isFurther
    -- Behind the left part and two characters, only a space and the right part are left.
    have isTail : (left ++ separator ++ right).drop (left.length + 2) = ' ' :: right := by
      rw [List.append_assoc, List.drop_append]
      simp [separator]
    have isThere : '=' ∈ (left ++ separator ++ right).drop (left.length + 2) := by
      have isSplit : front ++ separator ++ back = (front ++ [' ']) ++ ('=' :: ' ' :: back) := by
        simp [separator]
      rw [isCut, isSplit, List.drop_append_of_le_length (by simp; omega)]
      simp
    rw [isTail] at isThere
    exact isFree ((List.mem_cons.mp isThere).resolve_left (by decide))
  constructor
  · rintro ⟨isCut, isFurthest⟩
    have sameLength : front.length = left.length :=
      Nat.le_antisymm (isLast front back isCut) (isFurthest left right rfl)
    rw [List.append_assoc, List.append_assoc] at isCut
    obtain ⟨sameLeft, sameRest⟩ := List.append_inj isCut sameLength.symm
    exact ⟨sameLeft.symm, (List.append_cancel_left sameRest).symm⟩
  · rintro ⟨rfl, rfl⟩
    exact ⟨rfl, isLast⟩

theorem rdropWhile_padded {name : Text} (isTight : name.getLast? ≠ some ' ') (blanks : Nat) :
    (name ++ List.replicate blanks ' ').rdropWhile (· = ' ') = name := by
  induction blanks with
  | zero =>
      rw [List.replicate_zero, List.append_nil, List.rdropWhile_eq_self_iff]
      intro isNonempty isBlank
      rw [List.getLast?_eq_some_getLast isNonempty, of_decide_eq_true isBlank] at isTight
      exact isTight rfl
  | succ blanks ih =>
      rw [List.replicate_succ', ← List.append_assoc, List.rdropWhile_concat_pos _ _ _ (by decide), ih]

theorem isAligned_statusText {column : Nat} {name : String} (fits : name.toList.length ≤ column)
    (outcome : Outcome) : IsAligned column (Batch.statusText column name outcome) name outcome :=
  ⟨column - name.toList.length, rfl, by omega⟩

/-- A line that is aligned to any column tells its name and its outcome, and nothing else. -/
theorem IsAligned.tells_iff {column : Nat} {line : Text} {name : String} {outcome : Outcome}
    (isAligned : IsAligned column line name outcome) (isTight : name.toList.getLast? ≠ some ' ')
    (other : String) (ending : Outcome) :
    Tells line other ending ↔ other = name ∧ ending = outcome := by
  obtain ⟨blanks, isLine, _⟩ := isAligned
  have isFree : '=' ∉ outcome.label.toList := by cases outcome <;> decide
  simp only [Tells, isLine, isLastCut_iff isFree]
  constructor
  · rintro ⟨_, ⟨rfl, sameLabel⟩, isName⟩
    rw [rdropWhile_padded isTight, String.toList_inj] at isName
    exact ⟨isName.symm, label_injective (String.toList_inj.mp sameLabel)⟩
  · rintro ⟨rfl, rfl⟩
    exact ⟨_, ⟨rfl, rfl⟩, rdropWhile_padded isTight blanks⟩

end StatusLine

/-! ### Names of discovered fixtures -/

/-- The name of a discovered fixture ends in the extension. -/
theorem Discovery.relativeName_of_discover {root path : Path} {fragments : List String}
    {found : List Path} {workspace later : Workspace} (isSound : workspace.disk.IsSound)
    (discovered : (discover root fragments).run workspace = (.ok found, later))
    (isFound : path ∈ found) : ∃ stem, relativeName root path = stem ++ ".tst" := by
  obtain ⟨folder, names, isRoot, isBelow, rfl, isFixture⟩ :=
    finds_of_discover (congrArg Prod.fst discovered) isFound
  have isRelative := (mem_filesBelow_iff.mp isBelow).isRelative isSound
  obtain ⟨stem, _, isLast⟩ :=
    (isFixture_extend_iff (Disk.enters_of_find isRoot).isNonempty isRelative).mp isFixture
  obtain ⟨leading, rfl⟩ := List.getLast?_eq_some_iff.mp isLast
  obtain ⟨front, isText⟩ := Path.intercalate_concat leading (stem ++ ".tst")
  refine ⟨front ++ stem, ?_⟩
  rw [relativeName_extend root isRelative.areOrdinary, isText, String.append_assoc]

/-! ### The lines of a batch -/

namespace Batch

variable {host : Host} {settings : Settings} {mode : RunMode} {root : Path} {fixtures : List Path}
  {before after : Workspace} {result : Except Failure Report}

theorem lines_of_transcript {name : Path → String} {longest : Nat} {disk : Disk}
    {console : Console} {begun : Text}
    (transcript : Transcript host settings mode name longest fixtures disk console result begun
      after) :
    ∃ (done : List (Path × Outcome)) (rest : Text), done.map Prod.fst <+: fixtures ∧
      (∀ report, result = .ok report → done.map Prod.fst = fixtures ∧
        report = reportOn mode name done) ∧
      after.console.written = console.written ++ statusLines name longest done ++ rest := by
  have written {lines rest : Text} (isShown : after.console = console.append (lines ++ rest)) :
      after.console.written = console.written ++ lines ++ rest := by
    rw [isShown, Console.append, List.append_assoc]
  have writtenAlone {lines : Text} (isShown : after.console = console.append lines) :
      after.console.written = console.written ++ lines ++ [] :=
    written (isShown.trans (by rw [List.append_nil]))
  have before {done : List (Path × Outcome)} {path : Path} {last : Except Failure Outcome}
      {left : Disk} (calls : CallsTo host settings mode fixtures disk done path last left) :
      done.map Prod.fst <+: fixtures :=
    (List.prefix_append _ _).trans calls.isCut
  cases transcript with
  | @finished done _ calls isShown =>
      refine ⟨done, _, calls.isAll ▸ List.prefix_rfl, fun report isReport => ?_, written isShown⟩
      exact ⟨calls.isAll.symm, (Except.ok.inj isReport).symm⟩
  | @unsummarized done _ calls isShown _ =>
      exact ⟨done, [], calls.isAll ▸ List.prefix_rfl, by simp, writtenAlone isShown⟩
  | stopped listing =>
      cases listing with
      | @failed done _ _ _ calls isShown =>
          exact ⟨done, [], before calls, by simp, writtenAlone isShown⟩
      | @refused done _ _ _ calls isShown _ =>
          exact ⟨done, [], before calls, by simp, writtenAlone isShown⟩
      | @interrupted done _ _ _ calls _ isShown _ =>
          exact ⟨done, _, before calls, by simp, written isShown⟩

/-- The lines of a batch are aligned to the longest name, and each of them tells its name and its
outcome if the name does not end in a space, as no name of a discovered fixture does. -/
theorem runBatch_statusLines (isRun : mode ≠ .cleanOnly) (isNonempty : fixtures ≠ [])
    (ran : (runBatch host root fixtures settings mode).run before = (result, after)) :
    ∃ column, IsLongest (fixtures.map (Discovery.relativeName root)) column ∧
      (∃ (done : List (Path × Outcome)) (rest : Text), done.map Prod.fst <+: fixtures ∧
        (∀ report, result = .ok report → done.map Prod.fst = fixtures ∧
          report = reportOn mode (Discovery.relativeName root) done) ∧
        after.console.written =
          before.console.written ++ statusLines (Discovery.relativeName root) column done ++ rest) ∧
      (∀ name ∈ fixtures.map (Discovery.relativeName root), ∀ outcome,
        StatusLine.IsAligned column (statusText column name outcome) name outcome ∧
        (name.toList.getLast? ≠ some ' ' → ∀ other ending,
          StatusLine.Tells (statusText column name outcome) other ending ↔
            other = name ∧ ending = outcome)) ∧
      ∀ fragments searched later, searched.disk.IsSound →
        (Discovery.discover root fragments).run searched = (.ok fixtures, later) →
        ∀ name ∈ fixtures.map (Discovery.relativeName root), name.toList.getLast? ≠ some ' ' := by
  have areNames : fixtures.map (Discovery.relativeName root) ≠ [] := by
    simpa using isNonempty
  have isLongest := width_isLongest areNames
  rw [runBatch, run_bind_ok _ _ (run_record before _), if_neg isRun,
    if_neg (mt List.isEmpty_iff.mp isNonempty)] at ran
  obtain ⟨_, transcript⟩ := runAll_transcript ran
  refine ⟨_, isLongest, lines_of_transcript transcript, ?_, ?_⟩
  · intro name isName outcome
    have isAligned := StatusLine.isAligned_statusText (isLongest.1 name isName) outcome
    exact ⟨isAligned, isAligned.tells_iff⟩
  · intro fragments searched later isSound discovered name isName
    obtain ⟨path, isFound, rfl⟩ := List.mem_map.mp isName
    obtain ⟨stem, isStem⟩ := Discovery.relativeName_of_discover isSound discovered isFound
    rw [isStem, String.toList_append, List.getLast?_append_of_ne_nil _ (by decide)]
    decide

def imitatingDisk : Disk :=
  ((Disk.empty ["work"]).put ["work", "ä = [ok].tst"] (.file [] false)).put ["work", "b.tst"]
    (.file [] false)

def imitatingFixtures : List Path := [⟨"ä = [ok].tst"⟩, ⟨"b.tst"⟩]

theorem runBatch_statusLines_imitating :
    ∃ result after column,
      (runBatch (siblingHost id) ⟨"."⟩ imitatingFixtures sampleSettings .dump).run
        { disk := imitatingDisk } = (result, after) ∧
      after.console.written = ("ä = [ok].tst = [missing section]\n" ++
        "b.tst        = [missing section]\n0 / 2 tests passed\n").toList ∧
      ∀ other ending, StatusLine.Tells (statusText column "ä = [ok].tst" .malformed) other ending ↔
        other = "ä = [ok].tst" ∧ ending = .malformed := by
  obtain ⟨column, _, _, areTold, _⟩ :=
    @runBatch_statusLines (siblingHost id) sampleSettings .dump ⟨"."⟩ imitatingFixtures
      { disk := imitatingDisk } _ _ (by decide) (by decide) rfl
  refine ⟨_, _, column, rfl, by decide +kernel, ?_⟩
  exact (areTold "ä = [ok].tst" (by decide) .malformed).2 (by decide)

end Batch

end FixtureRunner
