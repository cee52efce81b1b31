/-
Where the cuts of a fixture fall.

The text is cut at the leftmost occurrence of the delimiter, and again behind it.  An
occurrence is leftmost when none starts inside the text before it; for a delimiter that
repeats one character this means that the text before it does not hold the delimiter and
does not end in that character.
-/

import FixtureRunner.Fixture.Sections

namespace FixtureRunner.Fixture

section Cut

variable {α : Type} [DecidableEq α]

/-- No occurrence of the delimiter in `before ++ rest` starts inside `before`. -/
def StartsNoneIn (delimiter before rest : List α) : Prop :=
  ∀ skipped tail, before = skipped ++ tail → tail ≠ [] → ¬ delimiter <+: tail ++ rest

theorem cutFrom_ne_nil (delimiter : List α) (skip : Nat) (text : List α) :
    cutFrom delimiter skip text ≠ [] := by
  induction text generalizing skip with
  | nil => simp [cutFrom]
  | cons first rest ih =>
      cases skip with
      | succ skip => exact ih skip
      | zero =>
          rw [cutFrom]
          split
          · exact List.cons_ne_nil _ _
          · split <;> exact List.cons_ne_nil _ _

theorem cutFrom_skip (delimiter skipped rest : List α) :
    cutFrom delimiter skipped.length (skipped ++ rest) = cutFrom delimiter 0 rest := by
  induction skipped with
  | nil => rfl
  | cons first others ih => exact ih

theorem cutFrom_delimiter (delimiter rest : List α) (isNonempty : delimiter ≠ []) :
    cutFrom delimiter 0 (delimiter ++ rest) = [] :: cutFrom delimiter 0 rest := by
  obtain ⟨first, others, rfl⟩ := List.exists_cons_of_ne_nil isNonempty
  have isFront : (first :: others).isPrefixOf (first :: (others ++ rest)) = true :=
    List.isPrefixOf_iff_prefix.mpr (List.prefix_append (first :: others) rest)
  rw [List.cons_append, cutFrom, if_pos isFront]
  exact congrArg _ (cutFrom_skip (first :: others) others rest)

theorem cutFrom_cons (delimiter : List α) (first : α) (rest : List α)
    (isNone : ¬ delimiter <+: first :: rest) :
    cutFrom delimiter 0 (first :: rest) =
      (cutFrom delimiter 0 rest).modifyHead (first :: ·) := by
  have isNoFront : ¬ delimiter.isPrefixOf (first :: rest) = true := by
    rw [List.isPrefixOf_iff_prefix]
    exact isNone
  rw [cutFrom, if_neg isNoFront]
  cases pieces : cutFrom delimiter 0 rest with
  | nil => exact absurd pieces (cutFrom_ne_nil delimiter 0 rest)
  | cons piece others => rfl

theorem cut_append (delimiter before rest : List α)
    (startsNone : StartsNoneIn delimiter before rest) :
    cut delimiter (before ++ rest) = (cut delimiter rest).modifyHead (before ++ ·) := by
  induction before with
  | nil => cases pieces : cut delimiter rest <;> simp [pieces]
  | cons first others ih =>
      have startsNoneHere : ¬ delimiter <+: first :: (others ++ rest) :=
        startsNone [] (first :: others) rfl (List.cons_ne_nil _ _)
      have startsNoneLater : StartsNoneIn delimiter others rest :=
        fun skipped tail same => startsNone (first :: skipped) tail (by rw [same]; rfl)
      have later : cutFrom delimiter 0 (others ++ rest) =
          (cut delimiter rest).modifyHead (others ++ ·) := ih startsNoneLater
      rw [cut, List.cons_append, cutFrom_cons _ _ _ startsNoneHere, later,
        List.modifyHead_modifyHead]
      rfl

theorem cut_append_delimiter (delimiter before rest : List α) (isNonempty : delimiter ≠ [])
    (isLeftmost : StartsNoneIn delimiter before (delimiter ++ rest)) :
    cut delimiter (before ++ (delimiter ++ rest)) = before :: cut delimiter rest := by
  have pieces : cut delimiter (delimiter ++ rest) = [] :: cut delimiter rest :=
    cutFrom_delimiter delimiter rest isNonempty
  rw [cut_append _ _ _ isLeftmost, pieces, List.modifyHead_cons, List.append_nil]

theorem cut_eq_singleton (delimiter text : List α)
    (isAbsent : ¬ delimiter <:+: text) : cut delimiter text = [text] := by
  induction text with
  | nil => rfl
  | cons first rest ih =>
      rw [List.infix_cons_iff, not_or] at isAbsent
      have later : cutFrom delimiter 0 rest = [rest] := ih isAbsent.2
      rw [cut, cutFrom_cons _ _ _ isAbsent.1, later, List.modifyHead_cons]

/-- Either nothing is cut, or the first cut falls at the leftmost occurrence. -/
theorem cut_cases (delimiter text : List α) (isNonempty : delimiter ≠ []) :
    (cut delimiter text = [text] ∧ ¬ delimiter <:+: text) ∨
      ∃ before rest, text = before ++ (delimiter ++ rest) ∧
        StartsNoneIn delimiter before (delimiter ++ rest) ∧
        cut delimiter text = before :: cut delimiter rest := by
  induction text with
  | nil =>
      left
      exact ⟨rfl, fun present => isNonempty (List.eq_nil_of_infix_nil present)⟩
  | cons first rest ih =>
      by_cases startsHere : delimiter <+: first :: rest
      · right
        obtain ⟨others, split⟩ := startsHere
        have isLeftmost : StartsNoneIn delimiter [] (delimiter ++ others) := by
          intro skipped tail same isTail
          exact absurd (List.append_eq_nil_iff.mp same.symm).2 isTail
        refine ⟨[], others, split.symm, isLeftmost, ?_⟩
        rw [← split]
        exact cut_append_delimiter delimiter [] others isNonempty isLeftmost
      · have pieces := cutFrom_cons delimiter first rest startsHere
        rcases ih with ⟨whole, isAbsent⟩ | ⟨before, others, same, isLeftmost, _pieces⟩
        · left
          have isAbsentHere : ¬ delimiter <:+: first :: rest := by
            rw [List.infix_cons_iff]
            exact not_or.mpr ⟨startsHere, isAbsent⟩
          exact ⟨cut_eq_singleton _ _ isAbsentHere, isAbsentHere⟩
        · right
          subst same
          have isLeftmostHere : StartsNoneIn delimiter (first :: before) (delimiter ++ others) := by
            intro skipped tail same isTail
            cases skipped with
            | nil =>
                have tailEq : tail = first :: before := same.symm
                rw [tailEq]
                exact startsHere
            | cons head skipped =>
                exact isLeftmost skipped tail (List.cons.inj same).2 isTail
          exact ⟨first :: before, others, rfl, isLeftmostHere,
            cut_append_delimiter _ _ _ isNonempty isLeftmostHere⟩

theorem one_lt_length_cut_iff (delimiter text : List α) (isNonempty : delimiter ≠ []) :
    1 < (cut delimiter text).length ↔ delimiter <:+: text := by
  rcases cut_cases delimiter text isNonempty with
    ⟨whole, isAbsent⟩ | ⟨before, rest, same, _isLeftmost, pieces⟩
  · rw [whole]
    simp [isAbsent]
  · have isPresent : delimiter <:+: text := ⟨before, rest, by rw [same, List.append_assoc]⟩
    have isMore : 0 < (cut delimiter rest).length :=
      List.length_pos_iff.mpr (cutFrom_ne_nil delimiter 0 rest)
    rw [pieces, List.length_cons]
    exact iff_of_true (by omega) isPresent

/-- Two pieces: what stands around the only cut. -/
theorem cut_eq_pair_iff (delimiter text before after : List α) (isNonempty : delimiter ≠ []) :
    cut delimiter text = [before, after] ↔
      text = before ++ (delimiter ++ after) ∧
        StartsNoneIn delimiter before (delimiter ++ after) ∧ ¬ delimiter <:+: after := by
  constructor
  · intro pair
    rcases cut_cases delimiter text isNonempty with
      ⟨whole, _isAbsent⟩ | ⟨first, rest, same, isLeftmost, pieces⟩
    · rw [whole] at pair
      simp at pair
    · rw [pieces] at pair
      obtain ⟨rfl, restPieces⟩ := List.cons.inj pair
      rcases cut_cases delimiter rest isNonempty with
        ⟨whole, isAbsent⟩ | ⟨second, others, _same, _isLeftmost, furtherPieces⟩
      · rw [whole] at restPieces
        obtain ⟨rfl, _⟩ := List.cons.inj restPieces
        exact ⟨same, isLeftmost, isAbsent⟩
      · rw [furtherPieces] at restPieces
        exact absurd (List.cons.inj restPieces).2 (cutFrom_ne_nil delimiter 0 others)
  · rintro ⟨rfl, isLeftmost, isAbsent⟩
    rw [cut_append_delimiter _ _ _ isNonempty isLeftmost, cut_eq_singleton _ _ isAbsent]

omit [DecidableEq α] in
/-- An occurrence of a run of one character is leftmost if the run is not in the text before
it and cannot be moved to the left. -/
theorem startsNoneIn_replicate_iff (count : Nat) (char : α) (before rest : List α)
    (isPositive : 0 < count) :
    StartsNoneIn (List.replicate count char) before (List.replicate count char ++ rest) ↔
      ¬ List.replicate count char <:+: before ∧ before.getLast? ≠ some char := by
  constructor
  · intro startsNone
    constructor
    · rintro ⟨skipped, following, same⟩
      apply startsNone skipped (List.replicate count char ++ following)
      · rw [← same, List.append_assoc]
      · simp [Nat.ne_of_gt isPositive]
      · rw [List.append_assoc]
        exact List.prefix_append _ _
    · intro ends
      obtain ⟨initial, rfl⟩ := List.getLast?_eq_some_iff.mp ends
      apply startsNone initial [char] rfl (List.cons_ne_nil _ _)
      -- One more character in front of a run makes a longer run.
      have longer : [char] ++ (List.replicate count char ++ rest) =
          List.replicate count char ++ ([char] ++ rest) := by
        rw [← List.append_assoc, ← List.append_assoc]
        congr 1
        rw [← List.replicate_succ', ← List.replicate_one, List.replicate_append_replicate,
          Nat.add_comm]
      rw [longer]
      exact List.prefix_append _ _
  · rintro ⟨isAbsent, isNoEnd⟩ skipped tail rfl isTail starts
    by_cases isLong : (List.replicate count char).length ≤ tail.length
    · have inTail : List.replicate count char <+: tail :=
        List.prefix_of_prefix_length_le starts (List.prefix_append _ _) isLong
      exact isAbsent (inTail.isInfix.trans (List.suffix_append skipped tail).isInfix)
    · have tailInRun : tail <+: List.replicate count char :=
        List.prefix_of_prefix_length_le (List.prefix_append _ _) starts (by omega)
      have lastInRun : tail.getLast isTail ∈ List.replicate count char :=
        tailInRun.subset (List.getLast_mem isTail)
      have lastIs : tail.getLast isTail = char := List.eq_of_mem_replicate lastInRun
      apply isNoEnd
      rw [List.getLast?_append, List.getLast?_eq_some_getLast isTail, lastIs, Option.some_or]

end Cut

/-! ### The sections of a fixture -/

theorem delimiter_eq_replicate : delimiter = List.replicate 8 '=' := by decide

theorem delimiter_ne_nil : delimiter ≠ [] := by decide

/-- A source can stand in front of the delimiter if the delimiter is not in it and does not
merge with its end. -/
def IsSource (source : Text) : Prop :=
  ¬ delimiter <:+: source ∧ source.getLast? ≠ some '='

theorem startsNoneIn_delimiter_iff (source rest : Text) :
    StartsNoneIn delimiter source (delimiter ++ rest) ↔ IsSource source := by
  unfold IsSource
  rw [delimiter_eq_replicate]
  exact startsNoneIn_replicate_iff 8 '=' source rest (by omega)

/-- A fixture has two sections exactly if it is a source, the delimiter and an expectation
without the delimiter. -/
theorem sections_eq_pair_iff (text source expected : Text) :
    sections text = [source, expected] ↔
      text = source ++ (delimiter ++ expected) ∧ IsSource source ∧ ¬ delimiter <:+: expected := by
  rw [sections, cut_eq_pair_iff delimiter text source expected delimiter_ne_nil,
    startsNoneIn_delimiter_iff]

theorem assemble_eq (source expectation : Text) :
    assemble source expectation = source ++ (delimiter ++ '\n' :: '\n' :: expectation) := by
  simp [assemble]

theorem delimiter_infix_newlines_iff (text : Text) :
    delimiter <:+: '\n' :: '\n' :: text ↔ delimiter <:+: text := by
  have startsNone (rest : Text) : ¬ delimiter <+: '\n' :: rest := by
    rintro ⟨following, same⟩
    rw [delimiter_eq_replicate, List.replicate_succ, List.cons_append] at same
    exact absurd (List.cons.inj same).1 (by decide)
  rw [List.infix_cons_iff, List.infix_cons_iff]
  constructor
  · rintro (here | here | later)
    · exact absurd here (startsNone _)
    · exact absurd here (startsNone _)
    · exact later
  · intro later
    exact Or.inr (Or.inr later)

/-- An assembled fixture falls into the parts it was made of exactly if its source can stand
in front of the delimiter and its expectation is free of it. -/
theorem sections_assemble_iff (source expectation : Text) :
    sections (assemble source expectation) = [source, '\n' :: '\n' :: expectation] ↔
      IsSource source ∧ ¬ delimiter <:+: expectation := by
  rw [sections_eq_pair_iff, assemble_eq, delimiter_infix_newlines_iff]
  exact and_iff_right rfl

theorem two_lt_length_sections_assemble (source expectation : Text)
    (isSource : IsSource source) (isPresent : delimiter <:+: expectation) :
    2 < (sections (assemble source expectation)).length := by
  have isLeftmost : StartsNoneIn delimiter source (delimiter ++ '\n' :: '\n' :: expectation) :=
    (startsNoneIn_delimiter_iff _ _).mpr isSource
  have isMore : 1 < (cut delimiter ('\n' :: '\n' :: expectation)).length :=
    (one_lt_length_cut_iff _ _ delimiter_ne_nil).mpr
      ((delimiter_infix_newlines_iff expectation).mpr isPresent)
  rw [assemble_eq, sections, cut_append_delimiter _ _ _ delimiter_ne_nil isLeftmost,
    List.length_cons]
  omega

end FixtureRunner.Fixture
