/-
What it means that an expression matches.

An expression spans a stretch of a text, from one place to another.  Marks move exactly along
such stretches.  A repetition without a bound is followed until no mark is new, and that comes
to pass before there are more rounds than places.
-/

import FixtureRunner.Pattern.Expression
import Mathlib.Data.List.Basic

namespace FixtureRunner.Pattern

/-! ### Stretches -/

/-- A number of steps leads from one place to another. -/
inductive Steps (Step : Nat → Nat → Prop) : Nat → Nat → Nat → Prop
  | none (place : Nat) : Steps Step 0 place place
  | more {count start between stop : Nat} (first : Step start between)
      (others : Steps Step count between stop) : Steps Step (count + 1) start stop

def before? (text : Text) : Nat → Option Char
  | 0 => none
  | place + 1 => text[place]?

/-- The expression matches what stands between two places of a text. -/
def Expression.Spans (text : Text) : Expression → Nat → Nat → Prop
  | .empty, start, stop => start = stop
  | .one accepts, start, stop =>
      stop = start + 1 ∧ ∃ char, text[start]? = some char ∧ accepts char = true
  | .look condition, start, stop =>
      start = stop ∧ condition.holds (before? text start) text[start]? = true
  | .sequence first second, start, stop =>
      ∃ between, first.Spans text start between ∧ second.Spans text between stop
  | .choice left right, start, stop => left.Spans text start stop ∨ right.Spans text start stop
  | .repetition least most body, start, stop =>
      ∃ count, least ≤ count ∧ (∀ bound, most = some bound → count ≤ max least bound) ∧
        Steps (body.Spans text) count start stop

section Steps

variable {Step : Nat → Nat → Prop} {start between stop : Nat}

theorem steps_zero_iff : Steps Step 0 start stop ↔ start = stop := by
  constructor
  · intro steps
    cases steps
    rfl
  · rintro rfl
    exact .none start

theorem steps_succ_iff {count : Nat} :
    Steps Step (count + 1) start stop ↔
      ∃ between, Step start between ∧ Steps Step count between stop := by
  constructor
  · intro steps
    cases steps with
    | more first others => exact ⟨_, first, others⟩
  · rintro ⟨between, first, others⟩
    exact .more first others

theorem Steps.append {count further : Nat} (steps : Steps Step count start between)
    (others : Steps Step further between stop) : Steps Step (count + further) start stop := by
  induction steps with
  | none place =>
      rw [Nat.zero_add]
      exact others
  | more first _ ih =>
      rw [Nat.succ_add]
      exact .more first (ih others)

theorem Steps.split {count further : Nat} (steps : Steps Step (count + further) start stop) :
    ∃ between, Steps Step count start between ∧ Steps Step further between stop := by
  induction count generalizing start with
  | zero =>
      rw [Nat.zero_add] at steps
      exact ⟨start, .none start, steps⟩
  | succ count ih =>
      rw [Nat.succ_add] at steps
      obtain ⟨next, first, others⟩ := steps_succ_iff.mp steps
      obtain ⟨between, front, back⟩ := ih others
      exact ⟨between, .more first front, back⟩

end Steps

/-! ### Marks -/

namespace Marks

def Holds (marks : Marks) (place : Nat) : Prop :=
  marks[place]? = some true

theorem Holds.lt_length {marks : Marks} {place : Nat} (isMarked : marks.Holds place) :
    place < marks.length :=
  (List.getElem?_eq_some_iff.mp isMarked).1

variable {left right : Marks}

theorem length_union (sameLength : left.length = right.length) :
    (left.union right).length = left.length := by
  rw [union, List.length_zipWith, sameLength, Nat.min_self]

theorem holds_union (sameLength : left.length = right.length) (place : Nat) :
    (left.union right).Holds place ↔ left.Holds place ∨ right.Holds place := by
  unfold Holds union
  rw [List.getElem?_zipWith]
  by_cases isPlace : place < left.length
  · rw [List.getElem?_eq_getElem isPlace, List.getElem?_eq_getElem (sameLength ▸ isPlace)]
    simp
  · rw [List.getElem?_eq_none (by omega), List.getElem?_eq_none (by omega)]
    simp

theorem count_union_lt (sameLength : left.length = right.length) (isNew : left.union right ≠ left) :
    (left.union right).count false < left.count false := by
  induction left generalizing right with
  | nil => exact absurd rfl isNew
  | cons mark rest ih =>
      cases right with
      | nil => cases sameLength
      | cons other others =>
          have sameRest : rest.length = others.length := Nat.succ.inj sameLength
          have isUnion : union (mark :: rest) (other :: others) =
              (mark || other) :: union rest others := rfl
          have isFewer : (union rest others).count false ≤ rest.count false := by
            by_cases isSame : union rest others = rest
            · exact Nat.le_of_eq (congrArg (List.count false) isSame)
            · exact Nat.le_of_lt (ih sameRest isSame)
          rw [isUnion] at isNew ⊢
          cases mark with
          | true =>
              have isNewRest : union rest others ≠ rest := fun isSame => isNew (by simp [isSame])
              simpa using ih sameRest isNewRest
          | false =>
              cases other with
              | true => simpa using Nat.lt_succ_of_le isFewer
              | false =>
                  have isNewRest : union rest others ≠ rest := fun isSame =>
                    isNew (by simp [isSame])
                  simpa using ih sameRest isNewRest

end Marks

/-- Marks move along the relation, on lines with `size` places. -/
structure Carries (size : Nat) (move : Marks → Marks) (Step : Nat → Nat → Prop) : Prop where
  length_eq {marks : Marks} : marks.length = size → (move marks).length = size
  holds_iff {marks : Marks} (stop : Nat) : marks.length = size →
    ((move marks).Holds stop ↔ ∃ start, marks.Holds start ∧ Step start stop)

namespace Carries

variable {size : Nat} {move : Marks → Marks} {Step : Nat → Nat → Prop}
  (carries : Carries size move Step)

include carries

theorem congr {Other : Nat → Nat → Prop} (same : ∀ start stop, Step start stop ↔ Other start stop) :
    Carries size move Other := by
  refine ⟨carries.length_eq, fun stop isSize => ?_⟩
  rw [carries.holds_iff stop isSize]
  simp only [same]

theorem andThen {next : Marks → Marks} {Next : Nat → Nat → Prop} (others : Carries size next Next) :
    Carries size (fun marks => next (move marks))
      (fun start stop => ∃ between, Step start between ∧ Next between stop) := by
  refine ⟨fun isSize => others.length_eq (carries.length_eq isSize), fun stop isSize => ?_⟩
  rw [others.holds_iff stop (carries.length_eq isSize)]
  simp only [carries.holds_iff _ isSize]
  constructor
  · rintro ⟨between, ⟨start, isStart, front⟩, back⟩
    exact ⟨start, isStart, between, front, back⟩
  · rintro ⟨start, isStart, between, front, back⟩
    exact ⟨between, ⟨start, isStart, front⟩, back⟩

theorem repeated (count : Nat) : Carries size (Nat.repeat move count) (Steps Step count) := by
  induction count with
  | zero =>
      refine ⟨fun isSize => isSize, fun stop isSize => ?_⟩
      simp [Nat.repeat, steps_zero_iff]
  | succ count ih =>
      refine (ih.andThen carries).congr fun start stop => ?_
      constructor
      · rintro ⟨between, steps, last⟩
        exact steps.append (.more last (.none stop))
      · intro steps
        obtain ⟨between, front, back⟩ := steps.split
        obtain ⟨_, last, ends⟩ := steps_succ_iff.mp back
        rw [steps_zero_iff.mp ends] at last
        exact ⟨between, front, last⟩

section Growing

variable {marks : Marks} (isSize : marks.length = size)

include isSize

theorem length_grown : (marks.union (move marks)).length = size := by
  rw [Marks.length_union (isSize.trans (carries.length_eq isSize).symm), isSize]

theorem holds_grown (stop : Nat) :
    (marks.union (move marks)).Holds stop ↔
      marks.Holds stop ∨ ∃ start, marks.Holds start ∧ Step start stop := by
  rw [Marks.holds_union (isSize.trans (carries.length_eq isSize).symm),
    carries.holds_iff stop isSize]

theorem holds_of_steps (isClosed : marks.union (move marks) = marks) {count start stop : Nat}
    (isStart : marks.Holds start) (steps : Steps Step count start stop) : marks.Holds stop := by
  induction steps with
  | none place => exact isStart
  | more first _ ih =>
      apply ih
      rw [← isClosed]
      exact (carries.holds_grown isSize _).mpr (Or.inr ⟨_, isStart, first⟩)

end Growing

theorem grow (count : Nat) :
    Carries size (Marks.grow move count)
      (fun start stop => ∃ taken, taken ≤ count ∧ Steps Step taken start stop) := by
  induction count with
  | zero =>
      refine ⟨fun isSize => isSize, fun stop isSize => ?_⟩
      simp [Marks.grow, steps_zero_iff]
  | succ count ih =>
      refine ⟨fun {marks} isSize => ?_, fun {marks} stop isSize => ?_⟩
      · rw [Marks.grow]
        split
        · exact isSize
        · exact ih.length_eq (carries.length_grown isSize)
      · rw [Marks.grow]
        split
        · rename_i isClosed
          constructor
          · intro isMarked
            exact ⟨stop, isMarked, 0, Nat.zero_le _, .none stop⟩
          · rintro ⟨start, isStart, taken, _, steps⟩
            exact carries.holds_of_steps isSize isClosed isStart steps
        · rw [ih.holds_iff stop (carries.length_grown isSize)]
          simp only [carries.holds_grown isSize]
          constructor
          · rintro ⟨between, isMarked | ⟨start, isStart, first⟩, taken, isFew, steps⟩
            · exact ⟨between, isMarked, taken, Nat.le_succ_of_le isFew, steps⟩
            · exact ⟨start, isStart, taken + 1, Nat.succ_le_succ isFew, .more first steps⟩
          · rintro ⟨start, isStart, taken, isFew, steps⟩
            cases steps with
            | none place => exact ⟨stop, Or.inl isStart, 0, Nat.zero_le _, .none stop⟩
            | more first others =>
                exact ⟨_, Or.inr ⟨start, isStart, first⟩, _, Nat.le_of_succ_le_succ isFew, others⟩

/-- With as many rounds as places without a mark, the marks grow until nothing is new. -/
theorem grow_closed (count : Nat) {marks : Marks} (isSize : marks.length = size)
    (isEnough : marks.count false ≤ count) :
    (Marks.grow move count marks).union (move (Marks.grow move count marks)) =
      Marks.grow move count marks := by
  induction count generalizing marks with
  | zero =>
      rw [Marks.grow]
      by_contra isNew
      have isFewer := Marks.count_union_lt (isSize.trans (carries.length_eq isSize).symm) isNew
      omega
  | succ count ih =>
      rw [Marks.grow]
      split
      · assumption
      · rename_i isNew
        have isFewer := Marks.count_union_lt (isSize.trans (carries.length_eq isSize).symm) isNew
        exact ih (carries.length_grown isSize) (by omega)

/-- No place is further away than the number of places. -/
theorem grow_size :
    Carries size (Marks.grow move size)
      (fun start stop => ∃ taken, Steps Step taken start stop) := by
  have grown := carries.grow size
  refine ⟨grown.length_eq, fun {marks} stop isSize => ?_⟩
  have isClosed := carries.grow_closed size isSize (isSize ▸ List.count_le_length)
  constructor
  · intro isMarked
    obtain ⟨start, isStart, taken, _, steps⟩ := (grown.holds_iff stop isSize).mp isMarked
    exact ⟨start, isStart, taken, steps⟩
  · rintro ⟨start, isStart, taken, steps⟩
    refine carries.holds_of_steps (grown.length_eq isSize) isClosed ?_ steps
    exact (grown.holds_iff start isSize).mpr ⟨start, isStart, 0, Nat.zero_le _, .none start⟩

end Carries

/-! ### Expressions -/

theorem getElem?_sides (text : Text) {place : Nat} (isPlace : place ≤ text.length) :
    (sides text)[place]? = some (before? text place, text[place]?) := by
  have isBefore : (none :: text.map some)[place]? = some (before? text place) := by
    cases place with
    | zero => rfl
    | succ place =>
        rw [List.getElem?_cons_succ, List.getElem?_map, before?,
          List.getElem?_eq_getElem (Nat.lt_of_succ_le isPlace)]
        rfl
  have isAfter : (text.map some ++ [none])[place]? = some text[place]? := by
    by_cases isInner : place < text.length
    · rw [List.getElem?_append_left (by simpa using isInner), List.getElem?_map,
        List.getElem?_eq_getElem isInner]
      rfl
    · obtain rfl : place = text.length := by omega
      rw [List.getElem?_append_right (by simp)]
      simp
  rw [sides, List.getElem?_zip_eq_some]
  exact ⟨isBefore, isAfter⟩

namespace Expression

variable (text : Text)

theorem carries_one (accepts : Char → Bool) :
    Carries (text.length + 1) ((one accepts).advance text) ((one accepts).Spans text) := by
  refine ⟨fun {marks} isSize => ?_, fun {marks} stop isSize => ?_⟩
  · simp only [advance, List.length_cons, List.length_zipWith]
    omega
  · rw [advance, Marks.Holds]
    cases stop with
    | zero => simp [Spans]
    | succ place =>
        rw [List.getElem?_cons_succ, List.getElem?_zipWith_eq_some]
        constructor
        · rintro ⟨mark, char, isMark, isChar, isBoth⟩
          obtain ⟨rfl, isAccepted⟩ := Bool.and_eq_true_iff.mp isBoth
          exact ⟨place, isMark, rfl, char, isChar, isAccepted⟩
        · rintro ⟨start, isStart, isNext, char, isChar, isAccepted⟩
          obtain rfl := Nat.succ.inj isNext
          exact ⟨true, char, isStart, isChar, by simpa using isAccepted⟩

theorem carries_look (condition : Look) :
    Carries (text.length + 1) ((look condition).advance text) ((look condition).Spans text) := by
  have isSides : (sides text).length = text.length + 1 := by simp [sides]
  refine ⟨fun {marks} isSize => ?_, fun {marks} stop isSize => ?_⟩
  · rw [advance, List.length_zipWith, isSize, isSides, Nat.min_self]
  · rw [advance, Marks.Holds, List.getElem?_zipWith_eq_some]
    constructor
    · rintro ⟨mark, side, isMark, isSide, isBoth⟩
      have isPlace := (List.getElem?_eq_some_iff.mp isMark).1
      rw [getElem?_sides text (by omega)] at isSide
      obtain rfl := Option.some.inj isSide
      obtain ⟨rfl, isHolding⟩ := Bool.and_eq_true_iff.mp isBoth
      exact ⟨stop, isMark, rfl, isHolding⟩
    · rintro ⟨start, isStart, rfl, isHolding⟩
      have isPlace := isStart.lt_length
      exact ⟨true, _, isStart, getElem?_sides text (by omega), by simpa using isHolding⟩

theorem carries_repetition (least : Nat) (most : Option Nat) {body : Expression}
    (carries : Carries (text.length + 1) (body.advance text) (body.Spans text)) :
    Carries (text.length + 1) ((repetition least most body).advance text)
      ((repetition least most body).Spans text) := by
  have first := carries.repeated least
  cases most with
  | none =>
      refine (first.andThen carries.grow_size).congr fun start stop => ?_
      constructor
      · rintro ⟨between, front, taken, back⟩
        exact ⟨least + taken, Nat.le_add_right _ _, by simp, front.append back⟩
      · rintro ⟨count, isMore, _, steps⟩
        obtain ⟨taken, rfl⟩ := Nat.exists_eq_add_of_le isMore
        obtain ⟨between, front, back⟩ := steps.split
        exact ⟨between, front, taken, back⟩
  | some bound =>
      refine (first.andThen (carries.grow (bound - least))).congr fun start stop => ?_
      constructor
      · rintro ⟨between, front, taken, isFew, back⟩
        refine ⟨least + taken, Nat.le_add_right _ _, ?_, front.append back⟩
        intro other isBound
        obtain rfl := Option.some.inj isBound
        omega
      · rintro ⟨count, isMore, isBounded, steps⟩
        obtain ⟨taken, rfl⟩ := Nat.exists_eq_add_of_le isMore
        obtain ⟨between, front, back⟩ := steps.split
        have isFew := isBounded bound rfl
        exact ⟨between, front, taken, by omega, back⟩

/-- Marks move from where an expression can start to where it can stop. -/
theorem carries (expression : Expression) :
    Carries (text.length + 1) (expression.advance text) (expression.Spans text) := by
  induction expression with
  | empty =>
      refine ⟨fun isSize => isSize, fun stop isSize => ?_⟩
      simp [advance, Spans]
  | one accepts => exact carries_one text accepts
  | look condition => exact carries_look text condition
  | sequence first second ihFirst ihSecond => exact ihFirst.andThen ihSecond
  | choice left right ihLeft ihRight =>
      have sameLength {marks : Marks} (isSize : marks.length = text.length + 1) :
          (left.advance text marks).length = (right.advance text marks).length :=
        (ihLeft.length_eq isSize).trans (ihRight.length_eq isSize).symm
      refine ⟨fun isSize => ?_, fun stop isSize => ?_⟩
      · rw [advance, Marks.length_union (sameLength isSize), ihLeft.length_eq isSize]
      · rw [advance, Marks.holds_union (sameLength isSize), ihLeft.holds_iff stop isSize,
          ihRight.holds_iff stop isSize, ← exists_or]
        simp only [Spans, and_or_left]
  | repetition least most body ih => exact carries_repetition text least most ih

/-- An expression matches in a text exactly if it spans some stretch of it. -/
theorem matchesIn_iff (expression : Expression) :
    expression.matchesIn text = true ↔
      ∃ start stop, start ≤ text.length ∧ expression.Spans text start stop := by
  have isSize : (List.replicate (text.length + 1) true).length = text.length + 1 :=
    List.length_replicate
  have isMarked (start : Nat) :
      Marks.Holds (List.replicate (text.length + 1) true) start ↔ start ≤ text.length := by
    simp only [Marks.Holds, List.getElem?_replicate, Option.ite_none_right_eq_some, and_true,
      Nat.lt_succ_iff]
  have isAny (marks : Marks) : marks.any id = true ↔ ∃ stop, marks.Holds stop := by
    simp [Marks.Holds, List.mem_iff_getElem?]
  rw [matchesIn, isAny]
  simp only [(expression.carries text).holds_iff _ isSize, isMarked]
  exact exists_comm

end Expression

end FixtureRunner.Pattern
