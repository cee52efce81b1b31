/-
Normalizing a file twice.

A file that can be read is normalized where its path leads, links followed, and is then read
back as the normalized text.  A second call leaves it alone exactly if that text is settled.  So
a normalizer leaves every normalized file alone exactly if no line becomes volatile by losing
the white space at its end.
-/

import FixtureRunner.Proofs.Fixture.Actions
import FixtureRunner.Proofs.Normalizer.Lines

namespace FixtureRunner

open Text (encode decode)

/-! ### Lines that are trimmed -/

/-- No line that is kept becomes volatile when the white space at its end is cut. -/
def KeepsTrimmed (isVolatile : Text → Bool) : Prop :=
  ∀ line, '\n' ∉ line → isVolatile line = false → Text.trimEnd line ≠ [] →
    isVolatile (Text.trimEnd line) = false

theorem IsCropped.trimEnd_line {texts front : List Text} {last : Text}
    (cropped : IsCropped texts front last) :
    ∃ line ∈ texts, Text.trimEnd line = last := by
  obtain ⟨tail, later, isTail, _, rfl⟩ := cropped.isFront
  exact ⟨last ++ tail, by simp, Text.trimEnd_eq_iff.mpr ⟨cropped.endsInk, tail, isTail, rfl⟩⟩

theorem isCropped_line {line : Text} (isInk : Text.trimEnd line ≠ []) :
    IsCropped [line] [] (Text.trimEnd line) := by
  obtain ⟨endsInk, tail, isTail, isLine⟩ := Text.trimEnd_eq_iff.mp (rfl : Text.trimEnd line = _)
  exact ⟨isInk, endsInk, tail, [], isTail, by simp, by rw [← isLine, List.nil_append]⟩

theorem idempotent_iff_keepsTrimmed (isVolatile : Text → Bool) :
    (∀ text, normalizeWith isVolatile (normalizeWith isVolatile text) =
      normalizeWith isVolatile text) ↔ KeepsTrimmed isVolatile := by
  simp only [normalize_again_iff]
  constructor
  · intro areSettled line isLine isKept isInk
    have isNonempty : line ≠ [] := by
      rintro rfl
      exact isInk rfl
    have isOnly : keptLines isVolatile line = [line] := by
      rw [keptLines, Text.lines_of_line isNonempty isLine, List.filter_singleton, isKept]
      rfl
    have cropped : IsCropped (keptLines isVolatile line) [] (Text.trimEnd line) := by
      rw [isOnly]
      exact isCropped_line isInk
    exact cropped.isSettled_iff.mp (areSettled line)
  · intro keepsTrimmed text
    rcases isWhite_or_isCropped (keptLines isVolatile text) with areWhite | ⟨front, last, cropped⟩
    · exact Or.inl (eq_newline_iff.mpr areWhite)
    · obtain ⟨line, isKept, isLast⟩ := cropped.trimEnd_line
      obtain ⟨isLine, isLasting⟩ := of_mem_keptLines isVolatile isKept
      have isInk : Text.trimEnd line ≠ [] := by
        rw [isLast]
        exact cropped.isNonempty
      rw [cropped.isSettled_iff, ← isLast]
      exact keepsTrimmed line isLine isLasting isInk

/-! ### Files -/

theorem Disk.write_of_read {disk : Disk} {path : Path} {content : Bytes}
    (isRead : disk.read path = .ok content) (written : Bytes) :
    ∃ after, disk.write path written = .ok after ∧ after.read path = .ok written := by
  obtain ⟨folder, name, executable, isFile, routed⟩ := route_of_read isRead
  have isWritten : disk.write path written = .ok (disk.store (folder ++ [name]) written) :=
    RoutesTo.write_open ⟨_, _, rfl, routed .write (by decide)⟩ written (by simp [isFile])
  exact ⟨_, isWritten, read_of_write isWritten⟩

namespace Normalizer

open FixtureRunner.Action

variable (normalizer : Normalizer) {path : Path} {before after : Workspace}

theorem read_of_normalizeFile {changed : Bool}
    (ran : (normalizer.normalizeFile path).run before = (.ok changed, after)) :
    ∃ content, before.disk.read path = .ok content := by
  obtain ⟨_, _, ranRead, _⟩ := run_bind_eq_ok _ ran
  rw [run_readBytes] at ranRead
  cases isRead : before.disk.read path with
  | error cause =>
      rw [isRead] at ranRead
      cases (Prod.mk.inj ranRead).1
  | ok content => exact ⟨content, rfl⟩

/-- A file is left alone if it is normalized already, and else replaced by the normalized text. -/
theorem run_normalizeFile {content : Bytes} (isRead : before.disk.read path = .ok content) :
    ∃ changed after, (normalizer.normalizeFile path).run before = (.ok changed, after) ∧
      after.disk.read path = .ok (encode (normalizer.normalize (decode content))) ∧
      (changed = false ∧ after = before ∨
        changed = true ∧ encode (normalizer.normalize (decode content)) ≠ content) := by
  by_cases isSame : encode (normalizer.normalize (decode content)) = content
  · exact ⟨false, before, normalizer.run_normalizeFile_same isRead isSame, by rw [isSame, isRead],
      Or.inl ⟨rfl, rfl⟩⟩
  · obtain ⟨disk, isWritten, isReadBack⟩ := Disk.write_of_read isRead
      (encode (normalizer.normalize (decode content)))
    obtain ⟨log, ran, _⟩ := normalizer.normalizeFile_ends_changed isRead isSame isWritten _ rfl
    exact ⟨true, _, ran, isReadBack, Or.inr ⟨rfl, isSame⟩⟩

theorem run_normalizeFile_eq_false_iff {text : Text}
    (isRead : before.disk.read path = .ok (encode text)) :
    (normalizer.normalizeFile path).run before = (.ok false, before) ↔
      normalizer.normalize text = text := by
  obtain ⟨changed, after, ran, isReadBack, ends⟩ := normalizer.run_normalizeFile isRead
  rw [Text.decode_encode] at isReadBack ends
  rw [ran]
  rcases ends with ⟨rfl, rfl⟩ | ⟨rfl, isOther⟩
  · have isSame := Except.ok.inj (isReadBack.symm.trans isRead)
    exact iff_of_true rfl (Text.encode_injective isSame)
  · refine iff_of_false (fun isSame => ?_) (fun isSame => isOther (by rw [isSame]))
    cases (Prod.mk.inj isSame).1

theorem read_after_normalizeFile {changed : Bool}
    (ran : (normalizer.normalizeFile path).run before = (.ok changed, after)) :
    ∃ content, before.disk.read path = .ok content ∧
      after.disk.read path = .ok (encode (normalizer.normalize (decode content))) := by
  obtain ⟨content, isRead⟩ := normalizer.read_of_normalizeFile ran
  obtain ⟨_, left, ranAgain, isReadBack, _⟩ := normalizer.run_normalizeFile isRead
  rw [ran] at ranAgain
  obtain ⟨_, rfl⟩ := Prod.mk.inj ranAgain
  exact ⟨content, isRead, isReadBack⟩

/-- A call on a normalized file, which leaves it alone or makes it shorter. -/
theorem run_normalizeFile_again {text : Text}
    (isRead : after.disk.read path = .ok (encode (normalizer.normalize text))) :
    ((normalizer.normalizeFile path).run after = (.ok false, after) ↔
      IsSettled normalizer.isVolatile (normalizer.normalize text)) ∧
    (¬ IsSettled normalizer.isVolatile (normalizer.normalize text) →
      ∃ again, (normalizer.normalizeFile path).run after = (.ok true, again) ∧
        again.disk.read path =
          .ok (encode (normalizer.normalize (normalizer.normalize text))) ∧
        (normalizer.normalize (normalizer.normalize text)).length <
          (normalizer.normalize text).length) := by
  have isAlone : (normalizer.normalizeFile path).run after = (.ok false, after) ↔
      IsSettled normalizer.isVolatile (normalizer.normalize text) :=
    (normalizer.run_normalizeFile_eq_false_iff isRead).trans
      (normalize_again_iff normalizer.isVolatile text)
  refine ⟨isAlone, fun isUnsettled => ?_⟩
  obtain ⟨changed, again, ran, isReadBack, ends⟩ := normalizer.run_normalizeFile isRead
  rw [Text.decode_encode] at isReadBack
  rcases ends with ⟨rfl, rfl⟩ | ⟨rfl, _⟩
  · exact absurd (isAlone.mp ran) isUnsettled
  · rcases normalize_again_cases normalizer.isVolatile text with ⟨isSettled, _⟩ | ⟨_, isShorter⟩
    · exact absurd isSettled isUnsettled
    · exact ⟨again, ran, isReadBack, isShorter⟩

theorem exists_file (text : Text) :
    ∃ (workspace : Workspace) (path : Path), workspace.disk.read path = .ok (encode text) := by
  have leads : ((Disk.empty []).put ["a"] (.file (encode text) false)).Leads ⟨"a"⟩ [] "a" :=
    Disk.leads_name ⟨by decide, by decide, by decide⟩ (by decide) (by decide) (by decide)
      (by decide)
  have isFile : ((Disk.empty []).put ["a"] (.file (encode text) false)).entryAt? ([] ++ ["a"]) =
      some (.file (encode text) false) := by
    rw [Disk.entryAt?_put _ _ _ _ (by simp)]
    rfl
  refine ⟨{ disk := (Disk.empty []).put ["a"] (.file (encode text) false) }, ⟨"a"⟩, ?_⟩
  rw [(leads.routesTo (fun target => by rw [isFile]; simp) .look).read_eq, isFile]

/-- Normalizing is idempotent for files exactly if it is for texts, and that exactly if no line
becomes volatile by losing the white space at its end.  After a call that has succeeded, a second
one leaves everything alone exactly if the normalized text is a single newline or its last line is
not volatile; else it changes the file again, to a shorter text. -/
theorem normalizeFile_again_iff :
    ((∀ path before changed after,
        (normalizer.normalizeFile path).run before = (.ok changed, after) →
          (normalizer.normalizeFile path).run after = (.ok false, after)) ↔
      ∀ text, normalizer.normalize (normalizer.normalize text) = normalizer.normalize text) ∧
    ((∀ text, normalizer.normalize (normalizer.normalize text) = normalizer.normalize text) ↔
      KeepsTrimmed normalizer.isVolatile) ∧
    ∀ path before changed after,
      (normalizer.normalizeFile path).run before = (.ok changed, after) →
      ∃ content normalized, before.disk.read path = .ok content ∧
        normalized = normalizer.normalize (Text.decode content) ∧
        after.disk.read path = .ok (Text.encode normalized) ∧
        ((normalizer.normalizeFile path).run after = (.ok false, after) ↔
          IsSettled normalizer.isVolatile normalized) ∧
        (¬ IsSettled normalizer.isVolatile normalized →
          ∃ again, (normalizer.normalizeFile path).run after = (.ok true, again) ∧
            again.disk.read path = .ok (Text.encode (normalizer.normalize normalized)) ∧
            (normalizer.normalize normalized).length < normalized.length) := by
  refine ⟨⟨?_, ?_⟩, idempotent_iff_keepsTrimmed normalizer.isVolatile, ?_⟩
  · intro leavesAlone text
    obtain ⟨before, path, isRead⟩ := exists_file text
    obtain ⟨changed, after, ran, isReadBack, _⟩ := normalizer.run_normalizeFile isRead
    rw [Text.decode_encode] at isReadBack
    exact (normalizer.run_normalizeFile_eq_false_iff isReadBack).mp
      (leavesAlone path before changed after ran)
  · intro isIdempotent path before changed after ran
    obtain ⟨content, _, isReadBack⟩ := normalizer.read_after_normalizeFile ran
    exact (normalizer.run_normalizeFile_eq_false_iff isReadBack).mpr (isIdempotent _)
  · intro path before changed after ran
    obtain ⟨content, isRead, isReadBack⟩ := normalizer.read_after_normalizeFile ran
    exact ⟨content, _, isRead, rfl, isReadBack, normalizer.run_normalizeFile_again isReadBack⟩

/-- Lines that end in `a` are volatile. -/
def endingInA : Normalizer :=
  { patterns := ["a$"].filterMap fun pattern => (Pattern.compile pattern).toOption }

def spacedDisk : Disk :=
  (Disk.empty ["work"]).put ["work", "a.ll"] (.file (Text.toBytes "b\na \n") false)

theorem normalizeFile_again_spacedDisk :
    ofPatterns ["a$"] = .ok endingInA ∧
    ∃ after again,
      (endingInA.normalizeFile ⟨"a.ll"⟩).run { disk := spacedDisk } = (.ok true, after) ∧
      after.disk.read ⟨"a.ll"⟩ = .ok (Text.toBytes "b\na\n") ∧
      (endingInA.normalizeFile ⟨"a.ll"⟩).run after = (.ok true, again) ∧
      again.disk.read ⟨"a.ll"⟩ = .ok (Text.toBytes "b\n") := by
  have isChanged : ((endingInA.normalizeFile ⟨"a.ll"⟩).run { disk := spacedDisk }).1 = .ok true := by
    decide +kernel
  have ran := run_eq_of_result _ isChanged
  obtain ⟨content, normalized, isRead, rfl, isReadBack, _, isAgain⟩ :=
    (normalizeFile_again_iff endingInA).2.2 _ _ _ _ ran
  have isContent : { disk := spacedDisk : Workspace }.disk.read ⟨"a.ll"⟩ =
      .ok (Text.toBytes "b\na \n") := by decide +kernel
  obtain rfl := Except.ok.inj (isContent.symm.trans isRead)
  have isNormalized : endingInA.normalize (Text.decode (Text.toBytes "b\na \n")) =
      "b\na\n".toList := by decide +kernel
  rw [isNormalized] at isReadBack isAgain
  have isUnsettled : ¬ IsSettled endingInA.isVolatile "b\na\n".toList := by
    rintro (isNewline | isKept)
    · exact absurd isNewline (by decide)
    · exact absurd (isKept "a".toList (by decide)) (by decide)
  obtain ⟨again, ranAgain, isReadAgain, _⟩ := isAgain isUnsettled
  exact ⟨rfl, _, again, ran, isReadBack, ranAgain, isReadAgain⟩

end Normalizer

end FixtureRunner
