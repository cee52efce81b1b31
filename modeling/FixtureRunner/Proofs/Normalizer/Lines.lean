/-
Normalized text line by line.

Normalizing keeps the lines that are not volatile and cuts the white end off them: white lines
at the end go, and the last line that is left loses the white space at its end.  That line is
the only one that is not as it was tested, so it alone decides whether normalizing again changes
anything.  Two texts are normalized to the same exactly if their kept lines are the same but for
white space at the end.
-/

import FixtureRunner.Normalizer
import FixtureRunner.Proofs.Text.Lines
import Mathlib.Logic.Relation

namespace FixtureRunner

open Text

def matchesAny (patterns : List (Text → Bool)) (line : Text) : Bool :=
  patterns.any (· line)

theorem matchesAny_eq_false_iff {patterns : List (Text → Bool)} {line : Text} :
    matchesAny patterns line = false ↔ ∀ pattern ∈ patterns, pattern line = false := by
  simp [matchesAny]

theorem Normalizer.normalize_eq (normalizer : Normalizer) :
    normalizer.normalize =
      normalizeWith (matchesAny (normalizer.patterns.map fun pattern => pattern.matchesIn)) := by
  have sameTest : normalizer.isVolatile =
      matchesAny (normalizer.patterns.map fun pattern => pattern.matchesIn) := by
    funext line
    rw [isVolatile, matchesAny, List.any_map]
    rfl
  funext text
  rw [normalize, sameTest]

def keptLines (isVolatile : Text → Bool) (text : Text) : List Text :=
  (lines text).filter fun line => !isVolatile line

/-- Without the white end of the lines, those of `front` are left as they are, and `last` of the
line behind them. -/
structure IsCropped (texts front : List Text) (last : Text) : Prop where
  isNonempty : last ≠ []
  endsInk : EndsInk last
  isFront : ∃ tail later, IsWhite tail ∧ (∀ line ∈ later, IsWhite line) ∧
    texts = front ++ (last ++ tail) :: later

/-- A single newline, or a text whose last line is not volatile. -/
def IsSettled (isVolatile : Text → Bool) (text : Text) : Prop :=
  text = ['\n'] ∨ ∀ line, (lines text).getLast? = some line → isVolatile line = false

/-! ### The end of a list of lines -/

theorem isWhite_unlines {texts : List Text} (areWhite : ∀ line ∈ texts, IsWhite line) :
    IsWhite (unlines texts) := by
  intro char isThere
  obtain ⟨line, isLine, inLine⟩ := List.mem_flatMap.mp isThere
  rcases List.mem_append.mp inLine with inBody | isNewline
  · exact areWhite line isLine char inBody
  · rw [List.mem_singleton.mp isNewline]
    rfl

theorem isWhite_or_isCropped (texts : List Text) :
    (∀ line ∈ texts, IsWhite line) ∨ ∃ front last, IsCropped texts front last := by
  induction texts with
  | nil => exact Or.inl (by simp)
  | cons line rest ih =>
      rcases ih with areWhite | ⟨front, last, cropped⟩
      · by_cases isWhite : IsWhite line
        · left
          intro other isThere
          rcases List.mem_cons.mp isThere with rfl | isLater
          · exact isWhite
          · exact areWhite other isLater
        · right
          obtain ⟨endsInk, tail, isTail, isLine⟩ := trimEnd_eq_iff.mp (rfl : trimEnd line = _)
          refine ⟨[], trimEnd line, ?_, endsInk, tail, rest, isTail, areWhite, ?_⟩
          · rw [Ne, trimEnd_eq_nil_iff]
            exact isWhite
          · rw [List.nil_append, ← isLine]
      · right
        obtain ⟨tail, later, isTail, areWhite, rfl⟩ := cropped.isFront
        exact ⟨line :: front, last, cropped.isNonempty, cropped.endsInk, tail, later, isTail,
          areWhite, rfl⟩

theorem IsCropped.trimEnd_eq {texts front : List Text} {last : Text}
    (cropped : IsCropped texts front last) : trimEnd (unlines texts) = unlines front ++ last := by
  obtain ⟨tail, later, isTail, areWhite, rfl⟩ := cropped.isFront
  refine trimEnd_eq_iff.mpr ⟨cropped.endsInk.append cropped.isNonempty _,
    tail ++ '\n' :: unlines later, ?_, ?_⟩
  · intro char isThere
    rcases List.mem_append.mp isThere with inTail | inLater
    · exact isTail char inTail
    · rcases List.mem_cons.mp inLater with rfl | inLines
      · rfl
      · exact isWhite_unlines areWhite char inLines
  · simp

/-! ### Normalizing -/

section Normalizing

variable (isVolatile : Text → Bool)

theorem keptLines_append {line : Text} (isLine : '\n' ∉ line) (rest : Text) :
    keptLines isVolatile (line ++ '\n' :: rest) =
      if isVolatile line then keptLines isVolatile rest
      else line :: keptLines isVolatile rest := by
  rw [keptLines, lines_append isLine, List.filter_cons]
  cases isVolatile line <;> rfl

/-- The pieces that are kept are the kept lines, but a newline may be missing at the end. -/
theorem flatten_kept_pieces (text : Text) :
    ∃ tail, IsWhite tail ∧
      ((pieces text).filter fun piece => !isVolatile (body piece)).flatten ++ tail =
        unlines (keptLines isVolatile text) := by
  induction text using line_induction with
  | empty => exact ⟨[], by simp [IsWhite], rfl⟩
  | last line isNonempty isLine =>
      rw [pieces_of_line isNonempty isLine, keptLines, lines_of_line isNonempty isLine,
        List.filter_singleton, List.filter_singleton, body_of_line isLine]
      cases isVolatile line with
      | true => exact ⟨[], by simp [IsWhite], rfl⟩
      | false => exact ⟨['\n'], by simp [IsWhite, isBlank], by simp⟩
  | more line rest isLine ih =>
      obtain ⟨tail, isWhite, isRest⟩ := ih
      refine ⟨tail, isWhite, ?_⟩
      rw [pieces_append isLine, keptLines_append isVolatile isLine, List.filter_cons, body_concat]
      cases isVolatile line with
      | true => exact isRest
      | false => simp [← isRest]

theorem normalizeWith_eq (text : Text) :
    normalizeWith isVolatile text = trimEnd (unlines (keptLines isVolatile text)) ++ ['\n'] := by
  obtain ⟨tail, isWhite, isKept⟩ := flatten_kept_pieces isVolatile text
  rw [← isKept, trimEnd_append_white _ isWhite]
  rfl

theorem IsCropped.normalized {text : Text} {front : List Text} {last : Text}
    (cropped : IsCropped (keptLines isVolatile text) front last) :
    normalizeWith isVolatile text = unlines (front ++ [last]) := by
  rw [normalizeWith_eq, cropped.trimEnd_eq]
  simp

theorem normalizeWith_of_white {text : Text}
    (areWhite : ∀ line ∈ keptLines isVolatile text, IsWhite line) :
    normalizeWith isVolatile text = ['\n'] := by
  rw [normalizeWith_eq, trimEnd_eq_nil_iff.mpr (isWhite_unlines areWhite), List.nil_append]

theorem of_mem_keptLines {text line : Text} (isKept : line ∈ keptLines isVolatile text) :
    '\n' ∉ line ∧ isVolatile line = false := by
  obtain ⟨isLine, isLasting⟩ := List.mem_filter.mp isKept
  exact ⟨newline_notMem_of_lines isLine, by simpa using isLasting⟩

end Normalizing

section Cropped

variable {isVolatile : Text → Bool} {text : Text} {front : List Text} {last : Text}

/-- The lines that are left are lines, and all but the last one are not volatile. -/
theorem IsCropped.areLines (cropped : IsCropped (keptLines isVolatile text) front last) :
    (∀ line ∈ front ++ [last], '\n' ∉ line) ∧ ∀ line ∈ front, isVolatile line = false := by
  obtain ⟨tail, later, _, _, isKept⟩ := cropped.isFront
  have ofFront (line : Text) (isThere : line ∈ front) : '\n' ∉ line ∧ isVolatile line = false :=
    of_mem_keptLines isVolatile (by rw [isKept]; simp [isThere])
  have ofLast : '\n' ∉ last ++ tail ∧ isVolatile (last ++ tail) = false :=
    of_mem_keptLines isVolatile (by rw [isKept]; simp)
  refine ⟨fun line isThere => ?_, fun line isThere => (ofFront line isThere).2⟩
  rcases List.mem_append.mp isThere with inFront | isLast
  · exact (ofFront line inFront).1
  · rw [List.mem_singleton.mp isLast]
    exact fun isBroken => ofLast.1 (List.mem_append_left _ isBroken)

theorem IsCropped.lines_eq (cropped : IsCropped (keptLines isVolatile text) front last) :
    lines (normalizeWith isVolatile text) = front ++ [last] := by
  rw [cropped.normalized, lines_unlines cropped.areLines.1]

theorem IsCropped.ne_newline (cropped : IsCropped (keptLines isVolatile text) front last) :
    normalizeWith isVolatile text ≠ ['\n'] := by
  intro isNewline
  have sameLines := cropped.lines_eq
  rw [isNewline] at sameLines
  have isSingle : [[]] = front ++ [last] := sameLines
  have isLast := congrArg List.getLast? isSingle
  rw [List.getLast?_concat] at isLast
  exact cropped.isNonempty (Option.some.inj isLast).symm

theorem normalizeWith_newline : normalizeWith isVolatile ['\n'] = ['\n'] := by
  apply normalizeWith_of_white
  intro line isKept
  have isEmpty : line ∈ [[]] := (List.mem_filter.mp isKept).1
  rw [List.mem_singleton.mp isEmpty]
  simp [IsWhite]

theorem eq_newline_iff :
    normalizeWith isVolatile text = ['\n'] ↔ ∀ line ∈ keptLines isVolatile text, IsWhite line := by
  constructor
  · intro isNewline
    rcases isWhite_or_isCropped (keptLines isVolatile text) with areWhite | ⟨front, last, cropped⟩
    · exact areWhite
    · exact absurd isNewline cropped.ne_newline
  · exact normalizeWith_of_white isVolatile

/-- Only the last line was changed after it had been tested. -/
theorem IsCropped.normalize_again (cropped : IsCropped (keptLines isVolatile text) front last) :
    normalizeWith isVolatile (normalizeWith isVolatile text) =
      if isVolatile last then trimEnd (unlines front) ++ ['\n']
      else normalizeWith isVolatile text := by
  have areKept : front.filter (fun line => !isVolatile line) = front :=
    List.filter_eq_self.mpr fun line isThere => by simp [cropped.areLines.2 line isThere]
  have keptAgain : keptLines isVolatile (normalizeWith isVolatile text) =
      if isVolatile last then front else front ++ [last] := by
    rw [keptLines, cropped.lines_eq, List.filter_append, areKept, List.filter_singleton]
    cases isVolatile last <;> simp
  rw [normalizeWith_eq, keptAgain]
  cases isVolatile last with
  | true => rfl
  | false =>
      have croppedAgain : IsCropped (front ++ [last]) front last :=
        ⟨cropped.isNonempty, cropped.endsInk, [], [], by simp [IsWhite], by simp, by simp⟩
      rw [if_neg Bool.false_ne_true, if_neg Bool.false_ne_true, croppedAgain.trimEnd_eq,
        cropped.normalized]
      simp

theorem IsCropped.isSettled_iff (cropped : IsCropped (keptLines isVolatile text) front last) :
    IsSettled isVolatile (normalizeWith isVolatile text) ↔ isVolatile last = false := by
  rw [IsSettled, or_iff_right cropped.ne_newline, cropped.lines_eq, List.getLast?_concat]
  simp

/-- A volatile line at the end is lost when the text is normalized again. -/
theorem IsCropped.length_lt (cropped : IsCropped (keptLines isVolatile text) front last)
    (isLost : isVolatile last = true) :
    (normalizeWith isVolatile (normalizeWith isVolatile text)).length <
      (normalizeWith isVolatile text).length := by
  have isNonempty := List.length_pos_iff.mpr cropped.isNonempty
  have isShorter := length_trimEnd_le (unlines front)
  rw [cropped.normalize_again, if_pos isLost, cropped.normalized]
  simp only [unlines_append, unlines_cons, unlines_nil, List.length_append, List.length_cons,
    List.length_nil]
  omega

end Cropped

theorem normalize_again_cases (isVolatile : Text → Bool) (text : Text) :
    (IsSettled isVolatile (normalizeWith isVolatile text) ∧
      normalizeWith isVolatile (normalizeWith isVolatile text) = normalizeWith isVolatile text) ∨
    (¬ IsSettled isVolatile (normalizeWith isVolatile text) ∧
      (normalizeWith isVolatile (normalizeWith isVolatile text)).length <
        (normalizeWith isVolatile text).length) := by
  rcases isWhite_or_isCropped (keptLines isVolatile text) with areWhite | ⟨front, last, cropped⟩
  · left
    rw [normalizeWith_of_white isVolatile areWhite]
    exact ⟨Or.inl rfl, normalizeWith_newline⟩
  · rw [cropped.isSettled_iff]
    cases isLast : isVolatile last with
    | true => exact Or.inr ⟨by decide, cropped.length_lt isLast⟩
    | false =>
        left
        rw [cropped.normalize_again, isLast]
        exact ⟨rfl, rfl⟩

theorem normalize_again_iff (isVolatile : Text → Bool) (text : Text) :
    normalizeWith isVolatile (normalizeWith isVolatile text) = normalizeWith isVolatile text ↔
      IsSettled isVolatile (normalizeWith isVolatile text) := by
  rcases normalize_again_cases isVolatile text with ⟨isSettled, isSame⟩ | ⟨isUnsettled, isShorter⟩
  · exact iff_of_true isSame isSettled
  · refine iff_of_false (fun isSame => ?_) isUnsettled
    rw [isSame] at isShorter
    exact Nat.lt_irrefl _ isShorter

/-- A normalized text ends in one newline behind something that is no white space.  It is a single
newline exactly if every kept line is white; else its lines are the kept ones without their white
end.  Normalizing it again changes nothing exactly if it is a single newline or its last line
matches no pattern. -/
theorem normalizeWith_lines (patterns : List (Text → Bool)) (text : Text) :
    (∃ front, normalizeWith (matchesAny patterns) text = front ++ ['\n'] ∧ EndsInk front) ∧
    (normalizeWith (matchesAny patterns) text = ['\n'] ↔
      ∀ line ∈ keptLines (matchesAny patterns) text, IsWhite line) ∧
    (normalizeWith (matchesAny patterns) text ≠ ['\n'] →
      ∃ front last, IsCropped (keptLines (matchesAny patterns) text) front last ∧
        lines (normalizeWith (matchesAny patterns) text) = front ++ [last]) ∧
    (normalizeWith (matchesAny patterns) (normalizeWith (matchesAny patterns) text) =
        normalizeWith (matchesAny patterns) text ↔
      normalizeWith (matchesAny patterns) text = ['\n'] ∨
        ∀ line, (lines (normalizeWith (matchesAny patterns) text)).getLast? = some line →
          ∀ pattern ∈ patterns, pattern line = false) := by
  refine ⟨⟨_, normalizeWith_eq _ text, endsInk_trimEnd _⟩, ?_, ?_, ?_⟩
  · exact eq_newline_iff
  · intro isMore
    rcases isWhite_or_isCropped (keptLines (matchesAny patterns) text) with
      areWhite | ⟨front, last, cropped⟩
    · exact absurd (eq_newline_iff.mpr areWhite) isMore
    · exact ⟨front, last, cropped, cropped.lines_eq⟩
  · rw [normalize_again_iff, IsSettled]
    simp only [matchesAny_eq_false_iff]

/-- A line that matches nothing until the white space at its end is cut is lost when the text is
normalized again. -/
theorem normalizeWith_lines_trimmed :
    (∃ front last,
      IsCropped (keptLines (matchesAny [(· == ['x'])]) "a\nx \n\t\n".toList) front last ∧
        lines (normalizeWith (matchesAny [(· == ['x'])]) "a\nx \n\t\n".toList) =
          front ++ [last]) ∧
    normalizeWith (matchesAny [(· == ['x'])])
        (normalizeWith (matchesAny [(· == ['x'])]) "a\nx \n\t\n".toList) ≠
      normalizeWith (matchesAny [(· == ['x'])]) "a\nx \n\t\n".toList := by
  obtain ⟨_, _, crops, isFixed⟩ :=
    normalizeWith_lines [(· == ['x'])] "a\nx \n\t\n".toList
  refine ⟨crops (by decide), ?_⟩
  rw [Ne, isFixed]
  decide

/-! ### Two texts -/

/-- One volatile line is put in, taken out or replaced by another. -/
inductive VolatileEdit (isVolatile : Text → Bool) : List Text → List Text → Prop
  | insert (front back : List Text) {line : Text} (isNew : isVolatile line = true) :
      VolatileEdit isVolatile (front ++ back) (front ++ line :: back)
  | delete (front back : List Text) {line : Text} (isOld : isVolatile line = true) :
      VolatileEdit isVolatile (front ++ line :: back) (front ++ back)
  | alter (front back : List Text) {line other : Text} (isOld : isVolatile line = true)
      (isNew : isVolatile other = true) :
      VolatileEdit isVolatile (front ++ line :: back) (front ++ other :: back)

section TwoTexts

variable {isVolatile : Text → Bool} {first second : Text}

theorem VolatileEdit.filter_eq {before after : List Text}
    (edit : VolatileEdit isVolatile before after) :
    before.filter (fun line => !isVolatile line) = after.filter fun line => !isVolatile line := by
  cases edit with
  | insert front back isNew => simp [isNew]
  | delete front back isOld => simp [isOld]
  | alter front back isOld isNew => simp [isOld, isNew]

theorem filter_eq_of_edits {before after : List Text}
    (edits : Relation.ReflTransGen (VolatileEdit isVolatile) before after) :
    before.filter (fun line => !isVolatile line) = after.filter fun line => !isVolatile line := by
  induction edits with
  | refl => rfl
  | tail _ edit ih => rw [ih, edit.filter_eq]

theorem trimEnd_unlines (texts : List Text) :
    trimEnd (unlines texts) = trimEnd (['\n'].intercalate texts) := by
  by_cases isEmpty : texts = []
  · rw [isEmpty]
    rfl
  · rw [unlines_eq_intercalate isEmpty, trimEnd_append_white _ (by simp [IsWhite, isBlank])]

theorem normalizeWith_eq_normalizeWith_iff :
    normalizeWith isVolatile first = normalizeWith isVolatile second ↔
      SameButEnd (['\n'].intercalate (keptLines isVolatile first))
        (['\n'].intercalate (keptLines isVolatile second)) := by
  rw [normalizeWith_eq, normalizeWith_eq, List.append_left_inj, trimEnd_unlines, trimEnd_unlines,
    trimEnd_eq_trimEnd_iff]

theorem normalizeWith_concat_newline :
    normalizeWith isVolatile (first ++ ['\n']) = normalizeWith isVolatile first := by
  rw [normalizeWith_eq, normalizeWith_eq]
  rcases lines_concat_newline first with same | longer
  · rw [keptLines, same, keptLines]
  · -- The line that a second newline ends is empty, so it is cut off if it is kept at all.
    have isWhite : IsWhite (unlines ([[]].filter fun line => !isVolatile line)) := by
      refine isWhite_unlines fun line isKept => ?_
      rw [List.mem_singleton.mp (List.mem_filter.mp isKept).1]
      simp [IsWhite]
    rw [keptLines, longer, List.filter_append, unlines_append, trimEnd_append_white _ isWhite,
      keptLines]

end TwoTexts

/-- Two texts are normalized to the same exactly if the lines of both that match no pattern, joined
by newlines, are the same but for white space at the end.  So lines that match can be put in, taken
out and replaced without notice, and so can a newline at the end. -/
theorem normalizeWith_same_iff (patterns : List (Text → Bool)) (first second : Text) :
    (normalizeWith (matchesAny patterns) first = normalizeWith (matchesAny patterns) second ↔
      SameButEnd (['\n'].intercalate (keptLines (matchesAny patterns) first))
        (['\n'].intercalate (keptLines (matchesAny patterns) second))) ∧
    (Relation.ReflTransGen (VolatileEdit (matchesAny patterns)) (lines first) (lines second) →
      normalizeWith (matchesAny patterns) first = normalizeWith (matchesAny patterns) second) ∧
    normalizeWith (matchesAny patterns) (first ++ ['\n']) =
      normalizeWith (matchesAny patterns) first := by
  refine ⟨normalizeWith_eq_normalizeWith_iff, fun edits => ?_, normalizeWith_concat_newline⟩
  have sameKept : keptLines (matchesAny patterns) first = keptLines (matchesAny patterns) second :=
    filter_eq_of_edits edits
  rw [normalizeWith_eq, normalizeWith_eq, sameKept]

/-- A volatile line is taken from the front and another put at the end, without a newline. -/
theorem normalizeWith_same_moved :
    normalizeWith (matchesAny [(['#'].isPrefixOf ·)]) "#1\nret\n".toList =
      normalizeWith (matchesAny [(['#'].isPrefixOf ·)]) "ret\n#2".toList := by
  have isDeleted : VolatileEdit (matchesAny [(['#'].isPrefixOf ·)]) ["#1".toList, "ret".toList]
      ["ret".toList] := .delete [] ["ret".toList] rfl
  have isInserted : VolatileEdit (matchesAny [(['#'].isPrefixOf ·)]) ["ret".toList]
      ["ret".toList, "#2".toList] := .insert ["ret".toList] [] rfl
  exact (normalizeWith_same_iff [(['#'].isPrefixOf ·)] "#1\nret\n".toList "ret\n#2".toList).2.1
    (.tail (.single isDeleted) isInserted)

end FixtureRunner
