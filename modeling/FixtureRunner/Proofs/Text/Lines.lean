/-
Lines and white space at the end.

A text is empty, or a line without a newline, or a line with a newline and a text behind it.
What is true of these three is true of every text.  A text without the white space at its end
is the longest front of it that ends in something else.
-/

import FixtureRunner.Text.Blank
import FixtureRunner.Text.Lines
import Mathlib.Data.List.DropRight

namespace FixtureRunner.Text

/-! ### Lines -/

/-- The lines of a text without the newlines that end them.  No line follows a newline at the
end. -/
def lines (text : Text) : List Text :=
  if (text.splitOn '\n').getLast? = some [] then (text.splitOn '\n').dropLast
  else text.splitOn '\n'

/-- The text of some lines, each ended by a newline. -/
def unlines (lines : List Text) : Text :=
  lines.flatMap (· ++ ['\n'])

theorem lines_nil : lines [] = [] := rfl

variable {line text : Text}

theorem lines_of_line (isNonempty : line ≠ []) (isLine : '\n' ∉ line) : lines line = [line] := by
  simp [lines, List.splitOn_eq_singleton isLine, isNonempty]

theorem lines_append (isLine : '\n' ∉ line) (rest : Text) :
    lines (line ++ '\n' :: rest) = line :: lines rest := by
  have isMore := List.splitOn_ne_nil '\n' rest
  have isSplit : (line ++ '\n' :: rest).splitOn '\n' = line :: rest.splitOn '\n' := by
    rw [List.splitOn_append_cons_self, List.splitOn_eq_singleton isLine, List.singleton_append]
  rw [lines, lines, isSplit, List.dropLast_cons_of_ne_nil isMore,
    List.getLast?_cons_of_ne_nil isMore]
  split <;> rfl

/-- What is true of texts by their first line is true of every text. -/
theorem line_induction {Holds : Text → Prop} (empty : Holds [])
    (last : ∀ line, line ≠ [] → '\n' ∉ line → Holds line)
    (more : ∀ line rest, '\n' ∉ line → Holds rest → Holds (line ++ '\n' :: rest))
    (text : Text) : Holds text := by
  induction isSize : text.length using Nat.strongRecOn generalizing text with
  | ind size ih =>
      by_cases isBroken : '\n' ∈ text
      · obtain ⟨line, rest, rfl, isLine⟩ := List.eq_append_cons_of_mem isBroken
        refine more line rest isLine (ih rest.length ?_ rest rfl)
        rw [← isSize, List.length_append, List.length_cons]
        omega
      · by_cases isEmpty : text = []
        · rw [isEmpty]
          exact empty
        · exact last text isEmpty isBroken

theorem newline_notMem_of_lines (isLine : line ∈ lines text) : '\n' ∉ line := by
  induction text using line_induction with
  | empty => cases isLine
  | last whole isNonempty isWhole =>
      rw [lines_of_line isNonempty isWhole, List.mem_singleton] at isLine
      rw [isLine]
      exact isWhole
  | more first rest isFirst ih =>
      rw [lines_append isFirst] at isLine
      rcases List.mem_cons.mp isLine with rfl | isLater
      · exact isFirst
      · exact ih isLater

@[simp] theorem unlines_nil : unlines [] = [] := rfl

@[simp] theorem unlines_cons (line : Text) (rest : List Text) :
    unlines (line :: rest) = line ++ '\n' :: unlines rest := by
  simp [unlines]

@[simp] theorem unlines_append (front back : List Text) :
    unlines (front ++ back) = unlines front ++ unlines back :=
  List.flatMap_append

theorem lines_unlines {texts : List Text} (areLines : ∀ line ∈ texts, '\n' ∉ line) :
    lines (unlines texts) = texts := by
  induction texts with
  | nil => rfl
  | cons line rest ih =>
      rw [unlines_cons, lines_append (areLines line List.mem_cons_self),
        ih fun later isLater => areLines later (List.mem_cons_of_mem _ isLater)]

/-- A newline at the end ends the last line, or makes an empty one if there is nothing to end. -/
theorem lines_concat_newline (text : Text) :
    lines (text ++ ['\n']) = lines text ∨ lines (text ++ ['\n']) = lines text ++ [[]] := by
  induction text using line_induction with
  | empty => exact Or.inr rfl
  | last line isNonempty isLine =>
      left
      rw [lines_append isLine, lines_of_line isNonempty isLine, lines_nil]
  | more line rest isLine ih =>
      rw [List.append_assoc, List.cons_append, lines_append isLine, lines_append isLine]
      rcases ih with same | longer
      · left
        rw [same]
      · right
        rw [longer, List.cons_append]

/-- Lines joined by newlines lack the newline behind the last one. -/
theorem unlines_eq_intercalate {texts : List Text} (isNonempty : texts ≠ []) :
    unlines texts = ['\n'].intercalate texts ++ ['\n'] := by
  induction texts with
  | nil => exact absurd rfl isNonempty
  | cons line rest ih =>
      cases rest with
      | nil => simp
      | cons next others =>
          rw [unlines_cons, ih (List.cons_ne_nil _ _),
            List.intercalate_cons_of_ne_nil (List.cons_ne_nil _ _)]
          simp

/-! ### Pieces -/

theorem pieces_of_line (isNonempty : line ≠ []) (isLine : '\n' ∉ line) : pieces line = [line] := by
  induction line with
  | nil => exact absurd rfl isNonempty
  | cons first others ih =>
      rw [List.mem_cons, not_or] at isLine
      rw [pieces, if_neg (Ne.symm isLine.1)]
      by_cases isLast : others = []
      · rw [isLast]
        rfl
      · rw [ih isLast isLine.2]

theorem pieces_append (isLine : '\n' ∉ line) (rest : Text) :
    pieces (line ++ '\n' :: rest) = (line ++ ['\n']) :: pieces rest := by
  induction line with
  | nil => rfl
  | cons first others ih =>
      rw [List.mem_cons, not_or] at isLine
      rw [List.cons_append, pieces, if_neg (Ne.symm isLine.1), ih isLine.2]
      rfl

theorem body_concat (line : Text) : body (line ++ ['\n']) = line := by
  rw [body, List.getLast?_concat, if_pos rfl, List.dropLast_concat]

theorem body_of_line (isLine : '\n' ∉ line) : body line = line := by
  rw [body, if_neg]
  intro isLast
  exact isLine (List.mem_of_getLast? isLast)

/-! ### White space at the end -/

def IsWhite (text : Text) : Prop :=
  ∀ char ∈ text, isBlank char = true

/-- The last character, if there is one, is no white space. -/
def EndsInk (text : Text) : Prop :=
  ∀ char, text.getLast? = some char → isBlank char = false

/-- The texts are the same but for white space at the end. -/
def SameButEnd (first second : Text) : Prop :=
  ∃ common firstTail secondTail, IsWhite firstTail ∧ IsWhite secondTail ∧
    first = common ++ firstTail ∧ second = common ++ secondTail

instance (text : Text) : Decidable (IsWhite text) :=
  inferInstanceAs (Decidable (∀ char ∈ text, isBlank char = true))

theorem EndsInk.append {last : Text} (endsInk : EndsInk last) (isNonempty : last ≠ [])
    (front : Text) : EndsInk (front ++ last) := by
  intro char isLast
  rw [List.getLast?_append_of_ne_nil _ isNonempty] at isLast
  exact endsInk char isLast

theorem trimEnd_eq_rdropWhile (text : Text) : trimEnd text = text.rdropWhile isBlank := rfl

theorem trimEnd_eq_iff {kept : Text} :
    trimEnd text = kept ↔ EndsInk kept ∧ ∃ tail, IsWhite tail ∧ text = kept ++ tail := by
  rw [trimEnd_eq_rdropWhile]
  constructor
  · rintro rfl
    constructor
    · intro char isLast
      have isNonempty := List.ne_nil_of_mem (List.mem_of_getLast? isLast)
      have isInk := List.rdropWhile_last_not isBlank text isNonempty
      rw [List.getLast?_eq_some_getLast isNonempty] at isLast
      rw [← Option.some.inj isLast]
      simpa using isInk
    · exact ⟨text.rtakeWhile isBlank, fun char isTaken => List.mem_rtakeWhile_imp isTaken,
        List.rdropWhile_append_rtakeWhile.symm⟩
  · rintro ⟨endsInk, tail, isWhite, rfl⟩
    have isSame : kept.rdropWhile isBlank = kept := by
      rw [List.rdropWhile_eq_self_iff]
      intro isNonempty
      rw [endsInk _ (List.getLast?_eq_some_getLast isNonempty)]
      simp
    rw [List.rdropWhile, List.reverse_append,
      List.dropWhile_append_of_pos fun char isThere => isWhite char (List.mem_reverse.mp isThere)]
    exact isSame

theorem endsInk_trimEnd (text : Text) : EndsInk (trimEnd text) :=
  (trimEnd_eq_iff.mp rfl).1

theorem length_trimEnd_le (text : Text) : (trimEnd text).length ≤ text.length := by
  obtain ⟨_, tail, _, isText⟩ := trimEnd_eq_iff.mp (rfl : trimEnd text = _)
  have sameLength := congrArg List.length isText
  rw [List.length_append] at sameLength
  omega

theorem trimEnd_append_white (text : Text) {tail : Text} (isWhite : IsWhite tail) :
    trimEnd (text ++ tail) = trimEnd text := by
  obtain ⟨endsInk, rest, isRest, isText⟩ := trimEnd_eq_iff.mp (rfl : trimEnd text = _)
  refine trimEnd_eq_iff.mpr ⟨endsInk, rest ++ tail, ?_, ?_⟩
  · intro char isThere
    exact (List.mem_append.mp isThere).elim (isRest char) (isWhite char)
  · rw [← List.append_assoc, ← isText]

theorem trimEnd_eq_nil_iff : trimEnd text = [] ↔ IsWhite text := by
  rw [trimEnd_eq_iff]
  constructor
  · rintro ⟨_, tail, isWhite, rfl⟩
    exact isWhite
  · intro isWhite
    exact ⟨by simp [EndsInk], text, isWhite, rfl⟩

/-- The texts are the same but for white space at the end exactly if they are the same
without it. -/
theorem trimEnd_eq_trimEnd_iff {first second : Text} :
    trimEnd first = trimEnd second ↔ SameButEnd first second := by
  constructor
  · intro same
    obtain ⟨_, firstTail, isFirst, firstText⟩ := trimEnd_eq_iff.mp same
    obtain ⟨_, secondTail, isSecond, secondText⟩ := trimEnd_eq_iff.mp (rfl : trimEnd second = _)
    exact ⟨trimEnd second, firstTail, secondTail, isFirst, isSecond, firstText, secondText⟩
  · rintro ⟨common, firstTail, secondTail, isFirst, isSecond, rfl, rfl⟩
    rw [trimEnd_append_white common isFirst, trimEnd_append_white common isSecond]

end FixtureRunner.Text
