/-
Names of what lies below a root.

A path below a root is named by the components behind those of the root.  The name leads back to the
path, and neither the spelling nor the place of the root shows in it.  So fragments select the same
from the same names, whatever the root.
-/

import FixtureRunner.Discovery.Walk
import FixtureRunner.Proofs.Discovery.Selection

namespace FixtureRunner

/-! ### Joining names -/

namespace Path

theorem map_text_name (names : List String) :
    (names.map Component.name).map Component.text = names := by
  rw [List.map_map]
  exact List.map_id names

theorem isInner_names {names : List String} (areOrdinary : ∀ name ∈ names, IsOrdinary name) :
    ∀ component ∈ names.map Component.name, IsInner component := by
  intro component isThere
  obtain ⟨name, isName, rfl⟩ := List.mem_map.mp isThere
  exact (areOrdinary name isName).isInner

theorem isAbsolute_intercalate {names : List String}
    (areOrdinary : ∀ name ∈ names, IsOrdinary name) :
    isAbsolute ⟨String.intercalate "/" names⟩ = false := by
  have isRelative := isAbsolute_inner (isInner_names areOrdinary)
  rwa [map_text_name] at isRelative

theorem getLast?_append_free (front : String) {name : String} (isNonempty : name ≠ "")
    (isFree : '/' ∉ name.toList) : (front ++ name).toList.getLast? ≠ some '/' := by
  have isFilled : name.toList ≠ [] := by simpa using isNonempty
  rw [String.toList_append, List.getLast?_append_of_ne_nil _ isFilled]
  intro isLast
  exact isFree (List.mem_of_getLast? isLast)

theorem intercalate_concat (leading : List String) (last : String) :
    ∃ front, String.intercalate "/" (leading ++ [last]) = front ++ last := by
  by_cases isSingle : leading = []
  · exact ⟨"", by simp [isSingle]⟩
  · refine ⟨String.intercalate "/" leading ++ "/", ?_⟩
    rw [String.intercalate_append_of_ne_nil isSingle (by simp), String.intercalate_singleton]

theorem join_join {root : Path} {name rest : String} (isOrdinary : IsOrdinary name)
    (isRelative : isAbsolute ⟨rest⟩ = false) (isWhole : isAbsolute ⟨name ++ "/" ++ rest⟩ = false) :
    (root.join ⟨name⟩).join ⟨rest⟩ = root.join ⟨name ++ "/" ++ rest⟩ := by
  obtain ⟨isNonempty, _, _, isFree⟩ := isOrdinary
  by_cases isEmpty : root.text = ""
  · have isOpen := getLast?_append_free "" isNonempty isFree
    rw [String.empty_append] at isOpen
    rw [join_of_empty isEmpty, join_of_empty isEmpty, join_eq isNonempty isRelative, if_neg isOpen]
  · obtain ⟨separator, _, isText⟩ := text_join isEmpty isFree
    have isOpen : (root.join ⟨name⟩).text.toList.getLast? ≠ some '/' := by
      rw [isText]
      exact getLast?_append_free _ isNonempty isFree
    rw [join_eq (join_nonempty isEmpty ⟨name⟩) isRelative, if_neg isOpen,
      join_eq isEmpty (isAbsolute_of_free isFree), join_eq isEmpty isWhole]
    split <;> simp only [String.append_assoc]

end Path

namespace Discovery

/-- The names that lead to something below a root. -/
structure IsRelative (names : List String) : Prop where
  isNonempty : names ≠ []
  areOrdinary : ∀ name ∈ names, Path.IsOrdinary name

instance (names : List String) : Decidable (IsRelative names) :=
  decidable_of_iff (names ≠ [] ∧ ∀ name ∈ names, Path.IsOrdinary name)
    ⟨fun ⟨isNonempty, areOrdinary⟩ => ⟨isNonempty, areOrdinary⟩,
      fun ⟨isNonempty, areOrdinary⟩ => ⟨isNonempty, areOrdinary⟩⟩

variable {names : List String} {root : Path}

theorem extend_eq_join (root : Path) (isRelative : IsRelative names) :
    extend root names = root.join ⟨String.intercalate "/" names⟩ := by
  obtain ⟨isNonempty, areOrdinary⟩ := isRelative
  induction names generalizing root with
  | nil => exact absurd rfl isNonempty
  | cons name rest ih =>
      by_cases isLast : rest = []
      · rw [isLast, String.intercalate_singleton]
        rfl
      · have areRest : ∀ other ∈ rest, Path.IsOrdinary other :=
          fun other isThere => areOrdinary other (List.mem_cons_of_mem _ isThere)
        have isWhole := Path.isAbsolute_intercalate areOrdinary
        rw [String.intercalate_cons_of_ne_nil isLast] at isWhole ⊢
        rw [← Path.join_join (areOrdinary name List.mem_cons_self)
          (Path.isAbsolute_intercalate areRest) isWhole]
        exact ih _ isLast areRest

theorem components_extend (root : Path) (areOrdinary : ∀ name ∈ names, Path.IsOrdinary name) :
    (extend root names).components = root.components ++ names.map .name := by
  induction names generalizing root with
  | nil => exact (List.append_nil _).symm
  | cons name rest ih =>
      have isStep : extend root (name :: rest) = extend (root.join ⟨name⟩) rest := rfl
      rw [isStep, ih _ fun other isThere => areOrdinary other (List.mem_cons_of_mem _ isThere),
        Path.components_join_name root (areOrdinary name List.mem_cons_self), List.append_assoc]
      rfl

theorem eq_of_components_extend {others : List String}
    (areOrdinary : ∀ name ∈ names, Path.IsOrdinary name)
    (areOrdinaryToo : ∀ name ∈ others, Path.IsOrdinary name)
    (same : (extend root names).components = (extend root others).components) : names = others := by
  rw [components_extend root areOrdinary, components_extend root areOrdinaryToo,
    List.append_cancel_left_eq] at same
  have sameTexts := congrArg (List.map Component.text) same
  rwa [Path.map_text_name, Path.map_text_name] at sameTexts

/-! ### Names -/

theorem relativeName_of_components {path : Path} {rest : List Component}
    (isBehind : root.components ++ rest = path.components) :
    relativeName root path = String.intercalate "/" (rest.map Component.text) := by
  have isAfter : root.after? path = some rest :=
    List.isPrefixOf?_eq_some_iff_append_eq.mpr isBehind
  rw [relativeName, isAfter]

theorem relativeName_extend (root : Path) (areOrdinary : ∀ name ∈ names, Path.IsOrdinary name) :
    relativeName root (extend root names) = String.intercalate "/" names := by
  rw [relativeName_of_components (components_extend root areOrdinary).symm, Path.map_text_name]

/-- The name of a path below a root leads from the root to the path. -/
theorem components_join_relativeName {path : Path} (isBelow : root.components <+: path.components) :
    (root.join ⟨relativeName root path⟩).components = path.components := by
  obtain ⟨rest, isBehind⟩ := isBelow
  rw [relativeName_of_components isBehind]
  by_cases isEmpty : root.text = ""
  · -- The name then has the first component of the path too, which may be a root or a dot.
    have isNone : root.components = [] := by
      rw [show root = ⟨""⟩ from congrArg Path.mk isEmpty, Path.components_nil]
    rw [isNone, List.nil_append] at isBehind
    rw [Path.join_of_empty isEmpty, isBehind]
    exact path.components_intercalate
  · obtain ⟨first, others, areSegments⟩ := List.exists_cons_of_ne_nil root.segments_ne_nil
    have areComponents := Path.components_of_segments areSegments isEmpty
    rw [areComponents, List.cons_append] at isBehind
    have areInner : ∀ component ∈ rest, Path.IsInner component := fun component isThere =>
      Path.isInner_of_components isBehind.symm component (List.mem_append_right _ isThere)
    rw [Path.components_join_inner areInner isEmpty, areComponents, List.cons_append, isBehind]

/-! ### Selecting names -/

def sortedNames (below : List (List String)) : List (List String) :=
  below.mergeSort fun left right =>
    (compare (left.map Component.name) (right.map Component.name)).isLE

section Below

variable {below : List (List String)} (areRelative : ∀ names ∈ below, IsRelative names)

include areRelative

theorem sorted_map_extend (root : Path) :
    sorted (below.map (extend root)) = (sortedNames below).map (extend root) := by
  symm
  refine List.map_mergeSort fun left isLeft right isRight => ?_
  rw [Path.le, components_extend root (areRelative left isLeft).areOrdinary,
    components_extend root (areRelative right isRight).areOrdinary, Path.compare_append_left]

theorem select_map_extend (root : Path) {fragments : List String} (areFragments : fragments ≠ []) :
    select root (below.map (extend root)) fragments =
      ((sortedNames below).filter fun names =>
        Matches fragments (String.intercalate "/" names)).map (extend root) := by
  have areSame : ∀ left ∈ below.map (extend root), ∀ right ∈ below.map (extend root),
      left.components = right.components → left = right := by
    intro left isLeft right isRight same
    obtain ⟨names, isThere, rfl⟩ := List.mem_map.mp isLeft
    obtain ⟨others, isThereToo, rfl⟩ := List.mem_map.mp isRight
    rw [eq_of_components_extend (areRelative names isThere).areOrdinary
      (areRelative others isThereToo).areOrdinary same]
  rw [select_eq_filter areFragments areSame, sorted_map_extend areRelative, List.filter_map]
  congr 1
  refine List.filter_congr fun names isThere => ?_
  have isNamed := relativeName_extend root
    (areRelative names ((List.mergeSort_perm below _).mem_iff.mp isThere)).areOrdinary
  rw [Function.comp_apply, isNamed]

end Below

/-- Names joined to a root are its names for what they lead to, every name leads back to its path
and to no other, and fragments select the same names under every root. -/
theorem names_relative :
    (∀ (root : Path) (names : List String), IsRelative names →
      extend root names = root.join ⟨String.intercalate "/" names⟩ ∧
      relativeName root (root.join ⟨String.intercalate "/" names⟩) =
        String.intercalate "/" names) ∧
    (∀ root path : Path, root.components <+: path.components →
      (root.join ⟨relativeName root path⟩).same path = true) ∧
    (∀ root left right : Path, root.components <+: left.components →
      root.components <+: right.components → left.same right = false →
      relativeName root left ≠ relativeName root right) ∧
    ∀ (below : List (List String)) (fragments : List String),
      (∀ names ∈ below, IsRelative names) →
      ∃ chosen : List (List String),
        (fragments = [] → chosen = below) ∧
        (fragments ≠ [] → chosen.Perm
          (below.filter fun names => Matches fragments (String.intercalate "/" names))) ∧
        ∀ root, select root (below.map (extend root)) fragments = chosen.map (extend root) := by
  refine ⟨fun root names isRelative => ?_, fun root path isBelow => ?_,
    fun root left right isLeft isRight areOther isSame => ?_, fun below fragments areRelative => ?_⟩
  · have isJoined := extend_eq_join root isRelative
    exact ⟨isJoined, isJoined ▸ relativeName_extend root isRelative.areOrdinary⟩
  · exact decide_eq_true (components_join_relativeName isBelow)
  · have isFirst := components_join_relativeName isLeft
    rw [isSame, components_join_relativeName isRight] at isFirst
    exact of_decide_eq_false areOther isFirst.symm
  · by_cases isEmpty : fragments = []
    · exact ⟨below, fun _ => rfl, fun areFragments => absurd isEmpty areFragments,
        fun root => by rw [isEmpty]; rfl⟩
    · exact ⟨_, fun isNone => absurd isNone isEmpty,
        fun _ => (List.mergeSort_perm below _).filter _,
        fun root => select_map_extend areRelative root isEmpty⟩

/-- A root that is named like a fragment, in several spellings. -/
theorem names_relative_under_ops :
    relativeName ⟨"./ops//"⟩ (Path.join ⟨"./ops//"⟩ ⟨"ops/add.tst"⟩) = "ops/add.tst" ∧
    (Path.join ⟨"/ops"⟩ ⟨relativeName ⟨"/ops"⟩ ⟨"//ops/.//add.tst"⟩⟩).same
      ⟨"//ops/.//add.tst"⟩ = true ∧
    relativeName ⟨""⟩ ⟨"/ops"⟩ ≠ relativeName ⟨""⟩ ⟨"ops"⟩ ∧
    ∃ chosen : List (List String), chosen.Perm [["ops", "add.tst"], ["b", "ops.tst"]] ∧
      ∀ root, select root ([["ops", "add.tst"], ["b", "ops.tst"], ["b.tst"]].map (extend root))
        ["ops.tst"] = chosen.map (extend root) := by
  obtain ⟨namesOf, leadsBack, areOther, selects⟩ := names_relative
  obtain ⟨chosen, _, isPerm, isSelected⟩ :=
    selects [["ops", "add.tst"], ["b", "ops.tst"], ["b.tst"]] ["ops.tst"] (by decide)
  exact ⟨(namesOf ⟨"./ops//"⟩ ["ops", "add.tst"] (by decide)).2,
    leadsBack ⟨"/ops"⟩ ⟨"//ops/.//add.tst"⟩ (by decide),
    areOther ⟨""⟩ ⟨"/ops"⟩ ⟨"ops"⟩ (by decide) (by decide) (by decide),
    chosen, isPerm (by decide), isSelected⟩

end Discovery

end FixtureRunner
