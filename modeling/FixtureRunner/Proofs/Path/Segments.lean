/-
Paths and their segments.

A path is the list of segments between its separators, none of which holds a separator.
What names something last in it is its name, and a name falls into a stem and an
extension at its last dot.
-/

import FixtureRunner.Path.Basic
import Mathlib.Data.List.TakeDrop
import Mathlib.Data.List.TakeWhile

namespace FixtureRunner

namespace Text

theorem fields_eq_splitOn (separator : Char) (text : Text) :
    fields separator text = text.splitOn separator := by
  induction text with
  | nil => rfl
  | cons char rest ih =>
      rw [fields, List.splitOn_cons_eq_if_modifyHead, ih]
      by_cases isSeparator : char = separator
      · simp [isSeparator]
      · rw [if_neg isSeparator, if_neg (by simpa using isSeparator)]
        cases others : rest.splitOn separator with
        | nil => exact absurd others (List.splitOn_ne_nil separator rest)
        | cons field others => rfl

theorem separator_not_mem_fields (separator : Char) (text field : Text)
    (isField : field ∈ fields separator text) : separator ∉ field := by
  induction text generalizing field with
  | nil =>
      rw [fields, List.mem_singleton] at isField
      rw [isField]
      exact List.not_mem_nil
  | cons char rest ih =>
      rw [fields] at isField
      by_cases isSeparator : char = separator
      · rw [if_pos isSeparator, List.mem_cons] at isField
        rcases isField with rfl | later
        · exact List.not_mem_nil
        · exact ih field later
      · rw [if_neg isSeparator] at isField
        cases others : fields separator rest with
        | nil =>
            rw [others, List.mem_singleton] at isField
            rw [isField, List.mem_singleton]
            exact fun same => isSeparator same.symm
        | cons first further =>
            rw [others, List.mem_cons] at isField
            rcases isField with rfl | later
            · rw [List.mem_cons, not_or]
              exact ⟨fun same => isSeparator same.symm,
                ih first (by rw [others]; exact List.mem_cons_self)⟩
            · exact ih field (by rw [others]; exact List.mem_cons_of_mem _ later)

end Text

namespace Path

/-! ### Segments -/

theorem segments_ofSegments (segments : List Text) (isNonempty : segments ≠ [])
    (isFree : ∀ segment ∈ segments, '/' ∉ segment) :
    (ofSegments segments).segments = segments := by
  rw [Path.segments, ofSegments, String.toList_ofList, Text.fields_eq_splitOn]
  exact List.splitOn_intercalate '/' isFree isNonempty

theorem ofSegments_segments (path : Path) : ofSegments path.segments = path := by
  rw [Path.segments, ofSegments, Text.fields_eq_splitOn, List.intercalate_splitOn,
    String.ofList_toList]

theorem separator_not_mem_segment {path : Path} {segment : Text}
    (isSegment : segment ∈ path.segments) : '/' ∉ segment :=
  Text.separator_not_mem_fields '/' path.text.toList segment isSegment

theorem intercalate_cons_eq (first : Text) (rest : List Text) :
    ['/'].intercalate (first :: rest) = first ++ rest.flatMap ('/' :: ·) := by
  induction rest generalizing first with
  | nil => simp
  | cons next others ih =>
      rw [List.intercalate_cons_of_ne_nil (List.cons_ne_nil _ _), ih]
      simp

theorem intercalate_append_cons (leading : List Text) (front back : Text) (trailing : List Text) :
    ['/'].intercalate (leading ++ (front ++ back) :: trailing) =
      ['/'].intercalate (leading ++ [front]) ++ (back ++ trailing.flatMap ('/' :: ·)) := by
  cases leading with
  | nil => simp [intercalate_cons_eq]
  | cons first rest => simp [intercalate_cons_eq]

theorem text_ofSegments_append (leading : List Text) (front back : Text) :
    (ofSegments (leading ++ [front ++ back])).text =
      (ofSegments (leading ++ [front])).text ++ String.ofList back := by
  rw [ofSegments, ofSegments, intercalate_append_cons, List.flatMap_nil, List.append_nil,
    String.ofList_append]

theorem isAbsolute_ofSegments (leading : List Text) (first second : Text)
    (firstFree : '/' ∉ first) (secondFree : '/' ∉ second) :
    (ofSegments (leading ++ [first])).isAbsolute =
      (ofSegments (leading ++ [second])).isAbsolute := by
  have isRelative (name : Text) (isFree : '/' ∉ name) : name.head? ≠ some '/' :=
    fun same => isFree (List.mem_of_mem_head? same)
  simp only [isAbsolute, ofSegments, String.toList_ofList]
  cases leading with
  | nil => simp [isRelative first firstFree, isRelative second secondFree]
  | cons outer rest =>
      have isMore (last : Text) : rest ++ [last] ≠ [] := by simp
      rw [List.cons_append, List.cons_append, List.intercalate_cons_of_ne_nil (isMore _),
        List.intercalate_cons_of_ne_nil (isMore _)]
      cases outer <;> simp

/-! ### The name at the end -/

theorem component?_isSome_iff (segment : Text) :
    (component? segment).isSome = true ↔ segment ≠ [] ∧ segment ≠ ['.'] := by
  unfold component?
  by_cases namesNothing : segment = [] ∨ segment = ['.']
  · rw [if_pos namesNothing]
    rcases namesNothing with rfl | rfl <;> simp
  · rw [if_neg namesNothing]
    rw [not_or] at namesNothing
    split <;> simp [namesNothing]

theorem namedRest_concat (leading : List Text) (name : Text)
    (isNamed : (component? name).isSome = true) :
    namedRest (leading ++ [name]) = leading ++ [name] := by
  induction leading with
  | nil => simp [namedRest, isNamed]
  | cons first rest ih =>
      rw [List.cons_append, namedRest, ih]
      cases kept : rest ++ [name] with
      | nil => simp at kept
      | cons next others => rfl

theorem named_concat (leading : List Text) (name : Text)
    (isNamed : (component? name).isSome = true) :
    named (leading ++ [name]) = leading ++ [name] := by
  cases leading with
  | nil =>
      have isNonempty : name ≠ [] := ((component?_isSome_iff name).mp isNamed).1
      simp [named, namedRest, isNonempty]
  | cons first rest =>
      rw [List.cons_append, named, namedRest_concat rest name isNamed]
      cases kept : rest ++ [name] with
      | nil => simp at kept
      | cons next others => rfl

theorem namedRest_append (segments : List Text) :
    ∃ trailing, segments = namedRest segments ++ trailing ∧
      ∀ segment ∈ trailing, (component? segment).isSome = false := by
  induction segments with
  | nil => exact ⟨[], rfl, by simp⟩
  | cons first rest ih =>
      obtain ⟨trailing, same, areNameless⟩ := ih
      rw [namedRest]
      cases kept : namedRest rest with
      | cons next others =>
          exact ⟨trailing, by rw [kept] at same; simp [same], areNameless⟩
      | nil =>
          rw [kept, List.nil_append] at same
          by_cases isNamed : (component? first).isSome = true
          · exact ⟨trailing, by simp [isNamed, same], areNameless⟩
          · exact ⟨first :: rest, by simp [isNamed],
              List.forall_mem_cons.mpr ⟨by simpa using isNamed, same ▸ areNameless⟩⟩

/-- Only segments that name nothing follow the last that does. -/
theorem named_append (segments : List Text) :
    ∃ trailing, segments = named segments ++ trailing ∧
      ∀ segment ∈ trailing, (component? segment).isSome = false := by
  cases segments with
  | nil => exact ⟨[], rfl, by simp⟩
  | cons first rest =>
      obtain ⟨trailing, same, areNameless⟩ := namedRest_append rest
      rw [named]
      cases kept : namedRest rest with
      | cons next others =>
          exact ⟨trailing, by rw [kept] at same; simp [same], areNameless⟩
      | nil =>
          rw [kept, List.nil_append] at same
          by_cases isEmpty : first = []
          · have isNameless : (component? first).isSome = false := by
              rw [isEmpty]
              rfl
            exact ⟨first :: rest, by simp [isEmpty],
              List.forall_mem_cons.mpr ⟨isNameless, same ▸ areNameless⟩⟩
          · exact ⟨trailing, by simp [isEmpty, same], areNameless⟩

theorem fileName?_eq_some {path : Path} {name : Text} (hasName : path.fileName? = some name) :
    ∃ leading trailing, path.segments = leading ++ name :: trailing ∧
      ∀ segment ∈ trailing, (component? segment).isSome = false := by
  obtain ⟨trailing, same, areNameless⟩ := named_append path.segments
  unfold fileName? at hasName
  cases last : (named path.segments).getLast? with
  | none => simp [last] at hasName
  | some segment =>
      rw [last] at hasName
      by_cases isDots : segment = ['.'] ∨ segment = ['.', '.']
      · simp [isDots] at hasName
      · simp only [isDots, if_false, Option.some.injEq] at hasName
        obtain ⟨leading, kept⟩ := List.getLast?_eq_some_iff.mp last
        exact ⟨leading, trailing, by rw [same, kept, hasName]; simp, areNameless⟩

theorem fileName?_ofSegments (leading : List Text) (name : Text)
    (isNonempty : name ≠ []) (isNoDot : name ≠ ['.']) (isNoDots : name ≠ ['.', '.'])
    (areFree : ∀ segment ∈ leading ++ [name], '/' ∉ segment) :
    (ofSegments (leading ++ [name])).fileName? = some name := by
  have isNamed : (component? name).isSome = true :=
    (component?_isSome_iff name).mpr ⟨isNonempty, isNoDot⟩
  rw [fileName?, segments_ofSegments _ (by simp) areFree, named_concat leading name isNamed]
  simp [isNoDot, isNoDots]

/-! ### Stem and extension -/

theorem cutName_concat (stem extension : Text) (isNonempty : stem ≠ [])
    (isDotless : '.' ∉ extension) :
    cutName (stem ++ '.' :: extension) = (stem, some extension) := by
  have isNoDot : ∀ char ∈ extension.reverse, decide (char ≠ '.') = true := by
    intro char member
    rw [decide_eq_true_eq]
    intro same
    exact isDotless (by rw [← same]; exact List.mem_reverse.mp member)
  have spanned : (stem ++ '.' :: extension).reverse.span (· ≠ '.') =
      (extension.reverse, '.' :: stem.reverse) := by
    rw [List.reverse_append, List.reverse_cons, List.append_assoc, List.span_eq_takeWhile_dropWhile,
      List.takeWhile_append_of_pos isNoDot, List.dropWhile_append_of_pos isNoDot]
    simp
  rw [cutName, spanned]
  cases reversed : stem.reverse with
  | nil => exact absurd (List.reverse_eq_nil_iff.mp reversed) isNonempty
  | cons char rest => simp [← reversed]

theorem cutName_eq_some {name stem extension : Text}
    (isCut : cutName name = (stem, some extension)) :
    name = stem ++ '.' :: extension ∧ stem ≠ [] ∧ '.' ∉ extension := by
  have whole := List.takeWhile_append_dropWhile (p := (· ≠ '.')) (l := name.reverse)
  have isDotless : ∀ char ∈ name.reverse.takeWhile (· ≠ '.'), char ≠ '.' :=
    fun char member => by simpa using List.mem_takeWhile_imp member
  have startsWithDot := List.head?_dropWhile_not (· ≠ '.') name.reverse
  rw [cutName, List.span_eq_takeWhile_dropWhile] at isCut
  generalize name.reverse.takeWhile (· ≠ '.') = back at whole isDotless isCut
  generalize name.reverse.dropWhile (· ≠ '.') = front at whole startsWithDot isCut
  match front with
  | [] => simp at isCut
  | [_] => simp at isCut
  | dot :: char :: rest =>
      obtain ⟨rfl, rfl⟩ : (char :: rest).reverse = stem ∧ back.reverse = extension := by
        simpa using isCut
      have isDot : dot = '.' := by simpa using startsWithDot
      refine ⟨?_, by simp, fun member => isDotless '.' (List.mem_reverse.mp member) rfl⟩
      have reversed := congrArg List.reverse whole
      rw [List.reverse_reverse, isDot] at reversed
      rw [← reversed]
      simp

theorem extension?_eq_some {path : Path} {extension : Text}
    (hasExtension : path.extension? = some extension) :
    ∃ leading stem trailing,
      path.segments = leading ++ (stem ++ '.' :: extension) :: trailing ∧
        stem ≠ [] ∧ '.' ∉ extension ∧
        ∀ segment ∈ trailing, (component? segment).isSome = false := by
  obtain ⟨name, hasName, isCut⟩ := Option.bind_eq_some_iff.mp hasExtension
  obtain ⟨leading, trailing, same, areNameless⟩ := fileName?_eq_some hasName
  obtain ⟨nameEq, isNonempty, isDotless⟩ :=
    cutName_eq_some (Prod.ext rfl isCut : cutName name = ((cutName name).1, some extension))
  exact ⟨leading, (cutName name).1, trailing, by rw [same, ← nameEq], isNonempty, isDotless,
    areNameless⟩

end Path
end FixtureRunner
