/-
Paths and their components.

Joining puts the components of a relative path behind those of the path, however that is spelled.
Paths are ordered by their components, and what two of them have in common at the front does not
count.
-/

import FixtureRunner.Proofs.Path.Segments
import Mathlib.Data.List.Infix

namespace FixtureRunner

/-! ### Order -/

namespace Component

theorem compare_name (left right : String) :
    compare (name left) (name right) = compare left right :=
  Ordering.then_eq

instance : Std.OrientedOrd Component where
  eq_swap {left right} := by
    cases left with
    | name text =>
        cases right with
        | name other => rw [compare_name, compare_name, Std.OrientedOrd.eq_swap]
        | _ => rfl
    | _ => cases right <;> rfl

instance : Std.TransOrd Component where
  isLE_trans {first second third} isLess isMore := by
    cases first with
    | name text =>
        cases second with
        | name other =>
            cases third with
            | name another =>
                rw [compare_name] at isLess isMore ⊢
                exact Std.TransOrd.isLE_trans isLess isMore
            | _ => cases isMore
        | _ => cases isLess
    | _ =>
        cases third with
        | name another => rfl
        | _ =>
            cases second with
            | name other => cases isMore
            | _ =>
                revert isLess isMore
                decide

instance : Std.LawfulEqOrd Component where
  compare_self {component} := by
    cases component with
    | name text => rw [compare_name, Std.ReflOrd.compare_self]
    | _ => rfl
  eq_of_compare {left right} isSame := by
    cases left with
    | name text =>
        cases right with
        | name other =>
            rw [compare_name] at isSame
            rw [Std.LawfulEqOrd.eq_of_compare isSame]
        | _ => cases isSame
    | _ => cases right <;> first | rfl | cases isSame

end Component

namespace Path

theorem le_trans (first second third : Path) (isLess : first.le second = true)
    (isMore : second.le third = true) : first.le third = true :=
  Std.TransOrd.isLE_trans isLess isMore

theorem le_total (left right : Path) : (left.le right || right.le left) = true := by
  have isSwapped : compare right.components left.components =
      (compare left.components right.components).swap := Std.OrientedOrd.eq_swap
  rw [le, le, isSwapped]
  cases compare left.components right.components <;> rfl

theorem components_eq_of_le {left right : Path} (isLess : left.le right = true)
    (isMore : right.le left = true) : left.components = right.components :=
  Std.LawfulEqOrd.eq_of_compare (Std.OrientedCmp.isLE_antisymm isLess isMore)

theorem compare_append_left (front left right : List Component) :
    compare (front ++ left) (front ++ right) = compare left right := by
  induction front with
  | nil => rfl
  | cons component rest ih =>
      rw [List.cons_append, List.cons_append, List.compare_cons_cons, Std.ReflOrd.compare_self, ih]
      rfl

/-! ### First components -/

/-- What the first segment of a path with any text names. -/
def firstComponent (segment : Text) : Component :=
  if segment = [] then .root
  else if segment = ['.'] then .here
  else if segment = ['.', '.'] then .up
  else .name (String.ofList segment)

variable {name : String} {path : Path} {segment : Text}

theorem segments_eq_empty_iff : path.segments = [[]] ↔ path.text = "" := by
  constructor
  · intro isEmpty
    rw [← path.ofSegments_segments, isEmpty]
    rfl
  · intro isEmpty
    rw [segments, isEmpty]
    rfl

theorem component?_eq_firstComponent (isFilled : segment ≠ []) (isNoDot : segment ≠ ['.']) :
    component? segment = some (firstComponent segment) := by
  rw [component?, if_neg (not_or.mpr ⟨isFilled, isNoDot⟩), firstComponent, if_neg isFilled,
    if_neg isNoDot]
  split <;> rfl

theorem components_of_segments {first : Text} {rest : List Text}
    (areSegments : path.segments = first :: rest) (isNonempty : path.text ≠ "") :
    path.components = firstComponent first :: rest.filterMap component? := by
  have isFilled : path.segments ≠ [[]] := mt segments_eq_empty_iff.mp isNonempty
  rw [areSegments] at isFilled
  rw [components, areSegments]
  by_cases isEmpty : first = []
  · subst isEmpty
    cases rest with
    | nil => exact absurd rfl isFilled
    | cons next others => rfl
  · by_cases isDot : first = ['.']
    · subst isDot
      rfl
    · split
      · rename_i same
        exact absurd (List.cons.inj same).1 isEmpty
      · rename_i same
        exact absurd (List.cons.inj same).1 isDot
      · rw [List.filterMap_cons_some (component?_eq_firstComponent isEmpty isDot)]

theorem components_nil : components ⟨""⟩ = [] := rfl

/-! ### Joining -/

theorem segments_ne_nil (path : Path) : path.segments ≠ [] := by
  rw [segments, Text.fields_eq_splitOn]
  exact List.splitOn_ne_nil '/' _

theorem segments_of_free (isFree : '/' ∉ name.toList) : segments ⟨name⟩ = [name.toList] := by
  rw [segments, Text.fields_eq_splitOn, List.splitOn_eq_singleton isFree]

theorem isAbsolute_of_free (isFree : '/' ∉ name.toList) : isAbsolute ⟨name⟩ = false := by
  rw [← Bool.not_eq_true]
  intro isAbsolute
  exact isFree (List.mem_of_mem_head? (of_decide_eq_true isAbsolute))

theorem segments_append (front back : String) :
    segments ⟨front ++ "/" ++ back⟩ = segments ⟨front⟩ ++ segments ⟨back⟩ := by
  have isText : (front ++ "/" ++ back).toList = front.toList ++ '/' :: back.toList := by simp
  simp only [segments, isText, Text.fields_eq_splitOn, List.splitOn_append_cons_self]

theorem join_of_empty (isEmpty : path.text = "") (child : Path) : path.join child = child := by
  rw [join, if_pos (Or.inr isEmpty)]

section Join

variable {path child : Path} (isNonempty : path.text ≠ "")

include isNonempty

theorem join_nonempty (child : Path) : (path.join child).text ≠ "" := by
  have appended (first second : String) (isFilled : first ≠ "") : first ++ second ≠ "" :=
    fun isEmpty => isFilled (String.append_eq_empty_iff.mp isEmpty).1
  rw [join]
  split
  · rename_i isChild
    intro isEmpty
    rw [isAbsolute, isEmpty] at isChild
    exact isChild.elim (fun isAbsolute => absurd isAbsolute (by decide)) isNonempty
  · split
    · exact appended _ _ isNonempty
    · exact appended _ _ (appended _ _ isNonempty)

section Relative

variable (isRelative : child.isAbsolute = false)

include isRelative

theorem join_eq :
    path.join child =
      if path.text.toList.getLast? = some '/' then ⟨path.text ++ child.text⟩
      else ⟨path.text ++ "/" ++ child.text⟩ := by
  rw [join, if_neg (by simp [isRelative, isNonempty])]

/-- Joining puts segments behind those of the path, in place of an empty one at the end. -/
theorem segments_join_relative :
    ∃ leading, (path.join child).segments = leading ++ child.segments ∧
      (path.segments = leading ∨ path.segments = leading ++ [[]]) := by
  rw [join_eq isNonempty isRelative]
  split
  · rename_i isClosed
    obtain ⟨front, isText⟩ := List.getLast?_eq_some_iff.mp isClosed
    have isFront : path.text = String.ofList front ++ "/" := by
      rw [← String.toList_inj, isText]
      simp
    refine ⟨segments ⟨String.ofList front⟩, ?_, Or.inr ?_⟩
    · rw [isFront]
      exact segments_append _ _
    · have isAppended := segments_append (String.ofList front) ""
      rw [← isFront, String.append_empty] at isAppended
      exact isAppended
  · exact ⟨path.segments, segments_append _ _, Or.inl rfl⟩

theorem components_join :
    (path.join child).components = path.components ++ child.segments.filterMap component? := by
  obtain ⟨leading, isJoined, isPath⟩ := segments_join_relative isNonempty isRelative
  cases leading with
  | nil =>
      rcases isPath with isPath | isPath
      · exact absurd isPath path.segments_ne_nil
      · exact absurd (segments_eq_empty_iff.mp isPath) isNonempty
  | cons first rest =>
      rw [List.cons_append] at isJoined isPath
      rw [components_of_segments isJoined (join_nonempty isNonempty child),
        List.filterMap_append]
      rcases isPath with isPath | isPath
      · rw [components_of_segments isPath isNonempty, List.cons_append]
      · rw [components_of_segments isPath isNonempty, List.filterMap_append]
        simp [component?]

end Relative

variable {name : String} (isFree : '/' ∉ name.toList)

include isFree

theorem segments_join :
    ∃ leading, (path.join ⟨name⟩).segments = leading ++ [name.toList] ∧
      (path.segments = leading ∨ path.segments = leading ++ [[]]) := by
  rw [← segments_of_free isFree]
  exact segments_join_relative isNonempty (isAbsolute_of_free isFree)

/-- What is joined stands behind the text of the path. -/
theorem text_join :
    ∃ separator, (separator = "" ∨ separator = "/") ∧
      (path.join ⟨name⟩).text = path.text ++ separator ++ name := by
  rw [join_eq isNonempty (isAbsolute_of_free isFree)]
  split
  · exact ⟨"", Or.inl rfl, by simp⟩
  · exact ⟨"/", Or.inr rfl, rfl⟩

end Join

/-! ### Texts of components -/

/-- A name that a file can have. -/
structure IsOrdinary (name : String) : Prop where
  isNonempty : name ≠ ""
  isNoDot : name ≠ "."
  isNoDots : name ≠ ".."
  isFree : '/' ∉ name.toList

instance (name : String) : Decidable (IsOrdinary name) :=
  decidable_of_iff (name ≠ "" ∧ name ≠ "." ∧ name ≠ ".." ∧ '/' ∉ name.toList)
    ⟨fun ⟨isNonempty, isNoDot, isNoDots, isFree⟩ => ⟨isNonempty, isNoDot, isNoDots, isFree⟩,
      fun ⟨isNonempty, isNoDot, isNoDots, isFree⟩ => ⟨isNonempty, isNoDot, isNoDots, isFree⟩⟩

/-- A component that is read from its text behind others. -/
structure IsInner (component : Component) : Prop where
  isRead : component? component.text.toList = some component
  isFree : '/' ∉ component.text.toList

theorem IsOrdinary.toList_ne (isOrdinary : IsOrdinary name) :
    name.toList ≠ [] ∧ name.toList ≠ ['.'] ∧ name.toList ≠ ['.', '.'] := by
  have differs (text : Text) (isOther : name ≠ String.ofList text) : name.toList ≠ text := by
    rintro rfl
    exact isOther String.ofList_toList.symm
  exact ⟨differs [] isOrdinary.isNonempty, differs ['.'] isOrdinary.isNoDot,
    differs ['.', '.'] isOrdinary.isNoDots⟩

theorem IsOrdinary.firstComponent_eq (isOrdinary : IsOrdinary name) :
    firstComponent name.toList = .name name := by
  obtain ⟨isFilled, isNoDot, isNoDots⟩ := isOrdinary.toList_ne
  rw [firstComponent, if_neg isFilled, if_neg isNoDot, if_neg isNoDots, String.ofList_toList]

theorem IsOrdinary.isInner (isOrdinary : IsOrdinary name) : IsInner (.name name) := by
  obtain ⟨isFilled, isNoDot, _⟩ := isOrdinary.toList_ne
  refine ⟨?_, isOrdinary.isFree⟩
  rw [Component.text, component?_eq_firstComponent isFilled isNoDot, isOrdinary.firstComponent_eq]

theorem isInner_of_component? {component : Component}
    (isNamed : component? segment = some component) (isFree : '/' ∉ segment) :
    IsInner component := by
  have isText : component.text.toList = segment := by
    rw [component?] at isNamed
    split at isNamed
    · cases isNamed
    · split at isNamed
      · rename_i isDots
        rw [← Option.some.inj isNamed, isDots]
        rfl
      · rw [← Option.some.inj isNamed]
        exact String.toList_ofList
  exact ⟨isText.symm ▸ isNamed, isText.symm ▸ isFree⟩

theorem isInner_of_components {first : Component} {rest : List Component}
    (areComponents : path.components = first :: rest) : ∀ component ∈ rest, IsInner component := by
  have isNonempty : path.text ≠ "" := by
    intro isEmpty
    rw [show path = ⟨""⟩ from congrArg Path.mk isEmpty, components_nil] at areComponents
    cases areComponents
  obtain ⟨segment, segments, areSegments⟩ := List.exists_cons_of_ne_nil path.segments_ne_nil
  rw [components_of_segments areSegments isNonempty] at areComponents
  obtain ⟨_, rfl⟩ := List.cons.inj areComponents
  intro component isThere
  obtain ⟨other, isSegment, isNamed⟩ := List.mem_filterMap.mp isThere
  refine isInner_of_component? isNamed (@separator_not_mem_segment path other ?_)
  rw [areSegments]
  exact List.mem_cons_of_mem _ isSegment

section Inner

variable {inner : List Component} (areInner : ∀ component ∈ inner, IsInner component)

include areInner

theorem segments_inner (isMore : inner ≠ []) :
    segments ⟨String.intercalate "/" (inner.map Component.text)⟩ =
      inner.map fun component => component.text.toList := by
  have isText : (String.intercalate "/" (inner.map Component.text)).toList =
      ['/'].intercalate (inner.map fun component => component.text.toList) := by
    rw [String.toList_intercalate, List.map_map]
    rfl
  rw [segments, isText, Text.fields_eq_splitOn]
  refine List.splitOn_intercalate '/' ?_ (by simpa using isMore)
  intro segment isSegment
  obtain ⟨component, isThere, rfl⟩ := List.mem_map.mp isSegment
  exact (areInner component isThere).isFree

theorem filterMap_inner :
    (inner.map fun component => component.text.toList).filterMap component? = inner := by
  induction inner with
  | nil => rfl
  | cons component rest ih =>
      rw [List.map_cons, List.filterMap_cons_some (areInner component List.mem_cons_self).isRead,
        ih fun other isThere => areInner other (List.mem_cons_of_mem _ isThere)]

theorem filterMap_segments_inner :
    (segments ⟨String.intercalate "/" (inner.map Component.text)⟩).filterMap component? =
      inner := by
  by_cases isEmpty : inner = []
  · rw [isEmpty]
    rfl
  · rw [segments_inner areInner isEmpty, filterMap_inner areInner]

theorem isAbsolute_inner :
    isAbsolute ⟨String.intercalate "/" (inner.map Component.text)⟩ = false := by
  cases inner with
  | nil => rfl
  | cons component rest =>
      have isInner := areInner component List.mem_cons_self
      have isFilled : component.text.toList ≠ [] := by
        intro isEmpty
        have isRead := isInner.isRead
        rw [isEmpty] at isRead
        cases isRead
      obtain ⟨char, others, isText⟩ := List.exists_cons_of_ne_nil isFilled
      have isOther : char ≠ '/' := by
        rintro rfl
        exact isInner.isFree (by rw [isText]; exact List.mem_cons_self)
      have isHead : (String.intercalate "/" ((component :: rest).map Component.text)).toList.head? =
          some char := by
        cases rest with
        | nil => simp [isText]
        | cons next further => simp [isText]
      rw [isAbsolute, isHead]
      simpa using isOther

theorem components_join_inner {path : Path} (isNonempty : path.text ≠ "") :
    (path.join ⟨String.intercalate "/" (inner.map Component.text)⟩).components =
      path.components ++ inner := by
  rw [components_join isNonempty (isAbsolute_inner areInner), filterMap_segments_inner areInner]

end Inner

theorem segments_firstComponent (isFree : '/' ∉ segment) :
    ∃ rest, segments ⟨(firstComponent segment).text⟩ = segment :: rest ∧
      rest.filterMap component? = [] := by
  by_cases isEmpty : segment = []
  · subst isEmpty
    exact ⟨[[]], rfl, rfl⟩
  · have isText : (firstComponent segment).text.toList = segment := by
      rw [firstComponent, if_neg isEmpty]
      split
      · rename_i isDot
        rw [isDot]
        rfl
      · split
        · rename_i isDots
          rw [isDots]
          rfl
        · exact String.toList_ofList
    refine ⟨[], ?_, rfl⟩
    rw [segments_of_free (isText.symm ▸ isFree), isText]

theorem text_firstComponent_ne (segment : Text) : (firstComponent segment).text ≠ "" := by
  intro isEmpty
  rw [firstComponent] at isEmpty
  split at isEmpty
  · exact absurd isEmpty (by decide)
  · rename_i isFilled
    split at isEmpty
    · exact absurd isEmpty (by decide)
    · split at isEmpty
      · exact absurd isEmpty (by decide)
      · exact isFilled (String.ofList_eq_empty_iff.mp isEmpty)

/-- The texts of all components, joined with separators, are read as these components. -/
theorem components_intercalate (path : Path) :
    components ⟨String.intercalate "/" (path.components.map Component.text)⟩ = path.components := by
  by_cases isEmpty : path.text = ""
  · rw [show path = ⟨""⟩ from congrArg Path.mk isEmpty]
    rfl
  · obtain ⟨segment, others, areSegments⟩ := List.exists_cons_of_ne_nil path.segments_ne_nil
    have areComponents := components_of_segments areSegments isEmpty
    have areInner := isInner_of_components areComponents
    obtain ⟨rest, isFirst, isNone⟩ := segments_firstComponent
      (separator_not_mem_segment (areSegments ▸ List.mem_cons_self : segment ∈ path.segments))
    generalize others.filterMap component? = inner at areComponents areInner
    rw [areComponents, List.map_cons]
    by_cases isSingle : inner = []
    · rw [isSingle, List.map_nil, String.intercalate_singleton,
        components_of_segments isFirst (text_firstComponent_ne segment), isNone]
    · have isMore : inner.map Component.text ≠ [] := by simpa using isSingle
      have isJoined := String.intercalate_cons_of_ne_nil (s := "/")
        (t := (firstComponent segment).text) isMore
      have areAll : segments ⟨String.intercalate "/" ((firstComponent segment).text ::
          inner.map Component.text)⟩ =
            segment :: (rest ++ segments ⟨String.intercalate "/" (inner.map Component.text)⟩) := by
        rw [isJoined, segments_append, isFirst, List.cons_append]
      have isFilled : (firstComponent segment).text ++ "/" ++
          String.intercalate "/" (inner.map Component.text) ≠ "" := by
        simp [text_firstComponent_ne]
      rw [components_of_segments areAll (isJoined ▸ isFilled), List.filterMap_append, isNone,
        filterMap_segments_inner areInner, List.nil_append]

/-! ### Ordinary names -/

theorem components_join_name (path : Path) (isOrdinary : IsOrdinary name) :
    (path.join ⟨name⟩).components = path.components ++ [.name name] := by
  have areInner : ∀ component ∈ [Component.name name], IsInner component := by
    intro component isThere
    rw [List.mem_singleton.mp isThere]
    exact isOrdinary.isInner
  by_cases isEmpty : path.text = ""
  · rw [join_of_empty isEmpty, show path = ⟨""⟩ from congrArg Path.mk isEmpty, components_nil,
      List.nil_append, components_of_segments (segments_of_free isOrdinary.isFree) isOrdinary.isNonempty,
      isOrdinary.firstComponent_eq, List.filterMap_nil]
  · exact components_join_inner areInner isEmpty

end Path
end FixtureRunner
