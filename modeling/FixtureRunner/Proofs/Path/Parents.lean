/-
Parents of paths.

However a path is spelled, its parent has the same components but for the last one.
-/

import FixtureRunner.Proofs.Path.Components
import FixtureRunner.Proofs.Path.Extension

namespace FixtureRunner.Path

/-! ### The components of leading segments -/

variable {path : Path} {segments leading trailing front : List Text} {last name : Text}

theorem AreNameless.filterMap (areNameless : AreNameless segments) :
    segments.filterMap component? = [] := by
  rw [List.filterMap_eq_nil_iff]
  exact fun segment isThere => by simpa using areNameless segment isThere

/-- The components of segments behind which others stand. -/
def componentsBefore : List Text → List Component
  | [] => []
  | first :: rest => firstComponent first :: rest.filterMap component?

theorem components_eq_before (isNonempty : path.text ≠ "") :
    path.components = componentsBefore path.segments := by
  obtain ⟨first, rest, areSegments⟩ := List.exists_cons_of_ne_nil path.segments_ne_nil
  rw [components_of_segments areSegments isNonempty, areSegments, componentsBefore]

theorem componentsBefore_concat (isFilled : name ≠ []) (isNoDot : leading ≠ [] → name ≠ ['.']) :
    componentsBefore (leading ++ [name]) = componentsBefore leading ++ [firstComponent name] := by
  cases leading with
  | nil => rfl
  | cons first rest =>
      rw [List.cons_append, componentsBefore, List.filterMap_append,
        List.filterMap_cons_some (component?_eq_firstComponent isFilled (isNoDot (by simp)))]
      rfl

theorem componentsBefore_nameless (isStarted : leading ≠ []) (areNameless : AreNameless trailing) :
    componentsBefore (leading ++ trailing) = componentsBefore leading := by
  obtain ⟨first, rest, rfl⟩ := List.exists_cons_of_ne_nil isStarted
  rw [List.cons_append, componentsBefore, List.filterMap_append, areNameless.filterMap,
    List.append_nil, componentsBefore]

theorem text_ne_of_name (areSegments : path.segments = leading ++ name :: trailing)
    (isFilled : name ≠ []) : path.text ≠ "" := by
  intro isEmpty
  rw [segments_eq_empty_iff.mpr isEmpty] at areSegments
  cases leading with
  | nil => exact isFilled (List.cons.inj areSegments).1.symm
  | cons first rest => simp at areSegments

theorem components_of_name (areSegments : path.segments = leading ++ name :: trailing)
    (isFilled : name ≠ []) (isNoDot : leading ≠ [] → name ≠ ['.'])
    (areNameless : AreNameless trailing) :
    path.components = componentsBefore leading ++ [firstComponent name] := by
  rw [components_eq_before (text_ne_of_name areSegments isFilled), areSegments,
    List.append_cons, componentsBefore_nameless (by simp) areNameless,
    componentsBefore_concat isFilled isNoDot]

/-! ### The segments up to the name -/

theorem isSome_of_namedRest (isKept : namedRest segments = front ++ [last]) :
    (component? last).isSome = true := by
  induction segments generalizing front with
  | nil => simp [namedRest] at isKept
  | cons first rest ih =>
      rw [namedRest] at isKept
      cases areKept : namedRest rest with
      | nil =>
          rw [areKept] at isKept
          by_cases isNamed : (component? first).isSome = true
          · rw [isNamed, if_pos rfl] at isKept
            have isSingle : [] ++ [first] = front ++ [last] := isKept
            rwa [← (List.cons.inj (List.append_inj' isSingle rfl).2).1]
          · simp [isNamed] at isKept
      | cons next others =>
          rw [areKept] at isKept ih
          cases front with
          | nil => simp at isKept
          | cons start front => exact ih (List.cons.inj isKept).2

/-- What is kept of segments ends in a name, or is a first segment that is not empty. -/
theorem last_of_named (isKept : named segments = front ++ [last]) :
    last ≠ [] ∧ (front ≠ [] → last ≠ ['.']) := by
  cases segments with
  | nil => simp [named] at isKept
  | cons first rest =>
      rw [named] at isKept
      cases areKept : namedRest rest with
      | nil =>
          rw [areKept] at isKept
          by_cases isEmpty : first = []
          · simp [isEmpty] at isKept
          · rw [if_neg isEmpty] at isKept
            have isSingle : [] ++ [first] = front ++ [last] := isKept
            obtain ⟨isFront, isLast⟩ := List.append_inj' isSingle rfl
            rw [← isFront, ← (List.cons.inj isLast).1]
            exact ⟨isEmpty, fun isSome => absurd rfl isSome⟩
      | cons next others =>
          rw [areKept] at isKept
          cases front with
          | nil => simp at isKept
          | cons start front =>
              have isNamed := isSome_of_namedRest (areKept.trans (List.cons.inj isKept).2)
              exact ((component?_isSome_iff last).mp isNamed).imp_right fun isNoDot _ => isNoDot

theorem eq_nil_of_named (isNone : named segments = []) :
    segments = [] ∨ ∃ rest, segments = [] :: rest ∧ AreNameless rest := by
  obtain ⟨trailing, areSegments, areNameless⟩ := named_append segments
  rw [isNone, List.nil_append] at areSegments
  subst areSegments
  cases segments with
  | nil => exact Or.inl rfl
  | cons first rest =>
      have areRest := (areNameless_cons.mp areNameless).2
      rw [named, areRest.namedRest] at isNone
      by_cases isEmpty : first = []
      · exact Or.inr ⟨rest, by rw [isEmpty], areRest⟩
      · simp [isEmpty] at isNone

/-! ### Parents -/

theorem parent?_of_named (isKept : named path.segments = front ++ [last]) :
    path.parent? = some (if named front = [] then ⟨if path.isAbsolute then "/" else ""⟩
      else ofSegments (named front)) := by
  obtain ⟨first, rest, isStart⟩ : ∃ first rest, front ++ [last] = first :: rest :=
    List.exists_cons_of_ne_nil (by simp)
  have isFront : (first :: rest).dropLast = front := by rw [← isStart, List.dropLast_concat]
  rw [parent?, isKept, isStart]
  dsimp only
  rw [isFront]
  cases named front <;> rfl

theorem isAbsolute_iff (path : Path) :
    path.isAbsolute = true ↔ ∃ rest, path.segments = [] :: rest ∧ rest ≠ [] := by
  have isText := congrArg text path.ofSegments_segments
  rw [ofSegments] at isText
  obtain ⟨first, rest, areSegments⟩ := List.exists_cons_of_ne_nil path.segments_ne_nil
  have isFree : '/' ∉ first := separator_not_mem_segment (areSegments ▸ List.mem_cons_self)
  rw [isAbsolute, ← isText, String.toList_ofList, areSegments, intercalate_cons_eq]
  cases first with
  | nil => cases rest <;> simp
  | cons char others =>
      have isOther : char ≠ '/' := fun isSlash => isFree (isSlash ▸ List.mem_cons_self)
      simp [isOther]

/-- What is left of the segments up to the last one has the components of the parent. -/
theorem components_above (areSegments : path.segments = front ++ last :: trailing)
    (isFilled : last ≠ []) :
    (if named front = [] then (⟨if path.isAbsolute then "/" else ""⟩ : Path)
      else ofSegments (named front)).components = componentsBefore front := by
  by_cases isNone : named front = []
  · rw [if_pos isNone]
    rcases eq_nil_of_named isNone with rfl | ⟨rest, rfl, areNameless⟩
    · have isRelative : path.isAbsolute ≠ true := by
        rw [Ne, isAbsolute_iff, areSegments]
        rintro ⟨rest, isRoot, _⟩
        exact isFilled (List.cons.inj isRoot).1
      rw [if_neg isRelative]
      rfl
    · rw [if_pos ((isAbsolute_iff path).mpr ⟨_, areSegments, by simp⟩), componentsBefore,
        areNameless.filterMap]
      rfl
  · rw [if_neg isNone]
    obtain ⟨rest, areFront, areNameless⟩ := named_append front
    have areFree : ∀ segment ∈ named front, '/' ∉ segment := by
      intro segment isThere
      have isSegment : segment ∈ path.segments := by
        rw [areSegments, areFront, List.append_assoc]
        exact List.mem_append_left _ isThere
      exact separator_not_mem_segment isSegment
    have areKept := segments_ofSegments _ isNone areFree
    obtain ⟨leading, name, isName⟩ := (List.eq_nil_or_concat' (named front)).resolve_left isNone
    rw [components_eq_before (text_ne_of_name (areKept.trans isName) (last_of_named isName).1),
      areKept]
    nth_rewrite 2 [areFront]
    rw [componentsBefore_nameless isNone areNameless]

/-- The parent lacks the last component. -/
theorem components_parent? {above : Path} (isParent : path.parent? = some above) :
    ∃ last, path.components = above.components ++ [last] := by
  obtain ⟨trailing, areSegments, areNameless⟩ := named_append path.segments
  rcases List.eq_nil_or_concat' (named path.segments) with isNone | ⟨front, last, isKept⟩
  · simp [parent?, isNone] at isParent
  · rw [isKept, ← List.append_cons] at areSegments
    obtain ⟨isFilled, isNoDot⟩ := last_of_named isKept
    rw [parent?_of_named isKept] at isParent
    refine ⟨firstComponent last, ?_⟩
    rw [← Option.some.inj isParent, components_above areSegments isFilled,
      components_of_name areSegments isFilled isNoDot areNameless]

/-- The text ends in a name, or is that of the root. -/
def EndsNamed (path : Path) : Prop :=
  path.text = "/" ∨
    ∃ leading name, path.segments = leading ++ [name] ∧ (component? name).isSome = true

theorem EndsNamed.text_ne (ends : path.EndsNamed) : path.text ≠ "" := by
  rcases ends with isRoot | ⟨leading, name, areSegments, isNamed⟩
  · rw [isRoot]
    decide
  · exact text_ne_of_name areSegments ((component?_isSome_iff name).mp isNamed).1

theorem IsOrdinary.isNamed {name : String} (isOrdinary : IsOrdinary name) :
    (component? name.toList).isSome = true :=
  (component?_isSome_iff _).mpr ⟨isOrdinary.toList_ne.1, isOrdinary.toList_ne.2.1⟩

section Join

variable {path : Path} {name : String} (ends : path.EndsNamed) (isOrdinary : IsOrdinary name)

include ends isOrdinary

theorem EndsNamed.join : (path.join ⟨name⟩).EndsNamed := by
  obtain ⟨leading, isJoined, _⟩ := segments_join ends.text_ne isOrdinary.isFree
  exact Or.inr ⟨leading, name.toList, isJoined, isOrdinary.isNamed⟩

theorem EndsNamed.parent?_join : (path.join ⟨name⟩).parent? = some path := by
  obtain ⟨leading, isJoined, isPath⟩ := segments_join ends.text_ne isOrdinary.isFree
  have isKept : named (path.join ⟨name⟩).segments = leading ++ [name.toList] := by
    rw [isJoined, named_concat leading _ isOrdinary.isNamed]
  rw [parent?_of_named isKept]
  rcases ends with isRoot | ⟨front, last, areSegments, isNamed⟩
  · obtain rfl : path = ⟨"/"⟩ := congrArg Path.mk isRoot
    have isLeading : leading = [[], []] ∨ leading = [[]] :=
      isPath.imp Eq.symm fun isClosed => (List.append_cancel_right isClosed).symm
    have isAbsolute : (Path.join ⟨"/"⟩ ⟨name⟩).isAbsolute = true := by
      rw [isAbsolute_iff, isJoined]
      rcases isLeading with rfl | rfl <;> exact ⟨_, rfl, by simp⟩
    rw [isAbsolute]
    rcases isLeading with rfl | rfl <;> rfl
  · have isLeading : path.segments = leading := by
      refine isPath.resolve_right fun isClosed => ?_
      rw [areSegments] at isClosed
      rw [(List.cons.inj (List.append_inj' isClosed rfl).2).1] at isNamed
      cases isNamed
    rw [← isLeading, areSegments, named_concat front last isNamed, if_neg (by simp), ← areSegments,
      ofSegments_segments]

end Join

end FixtureRunner.Path
