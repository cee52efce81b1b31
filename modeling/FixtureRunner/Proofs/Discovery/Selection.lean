/-
What fragments select.

Every fragment takes its paths from those that the fragments before it have left, yet all of them
together take what a plain filter keeps.  The order and the number of fragments show only in the
order of paths that are spelled differently and mean the same.
-/

import FixtureRunner.Discovery.Selection
import FixtureRunner.Proofs.Path.Components
import Mathlib.Data.List.Pairwise
import Mathlib.Data.List.Sort

namespace FixtureRunner

theorem Text.includes_iff {needle text : Text} :
    includes needle text = true ↔ needle <:+: text := by
  induction text with
  | nil =>
      rw [includes, List.isEmpty_iff, List.infix_nil]
  | cons char rest ih =>
      rw [includes, Bool.or_eq_true, List.isPrefixOf_iff_prefix, ih, List.infix_cons_iff]

namespace Discovery

/-- The name contains one of the fragments, taken without their extensions. -/
def Matches (fragments : List String) (name : String) : Prop :=
  ∃ fragment ∈ fragments, bareFragment fragment.toList <:+: name.toList

instance (fragments : List String) (name : String) : Decidable (Matches fragments name) :=
  inferInstanceAs (Decidable (∃ fragment ∈ fragments,
    bareFragment fragment.toList <:+: name.toList))

theorem any_claims (root path : Path) (fragments : List String) :
    fragments.any (claims root · path) = decide (Matches fragments (relativeName root path)) := by
  rw [Bool.eq_iff_iff, decide_eq_true_eq]
  simp only [List.any_eq_true, claims, Text.includes_iff, Matches]

theorem Matches.mono {name : String} {fragments more : List String} (areMore : fragments ⊆ more)
    (isMatch : Matches fragments name) : Matches more name := by
  obtain ⟨fragment, isThere, isPart⟩ := isMatch
  exact ⟨fragment, areMore isThere, isPart⟩

/-! ### Claiming -/

/-- What one test takes, and another takes of what is left, are taken by both together. -/
theorem filter_append_filter_perm {α : Type} (first second : α → Bool) (pool : List α) :
    (pool.filter first ++ (pool.filter (!first ·)).filter second).Perm
      (pool.filter fun item => first item || second item) := by
  have isFirst : (pool.filter fun item => first item || second item).filter first =
      pool.filter first := by
    rw [List.filter_filter]
    refine List.filter_congr fun item _ => ?_
    cases first item <;> simp
  have isSecond : (pool.filter fun item => first item || second item).filter (!first ·) =
      (pool.filter (!first ·)).filter second := by
    rw [List.filter_filter, List.filter_filter]
    refine List.filter_congr fun item _ => ?_
    cases first item <;> simp
  rw [← isFirst, ← isSecond]
  exact List.filter_append_perm first _

theorem claimed_perm (root : Path) (pool : List Path) (fragments : List String) :
    ((claimEach root pool fragments).flatMap (·.paths)).Perm
      (pool.filter fun path => fragments.any (claims root · path)) := by
  induction fragments generalizing pool with
  | nil => simp [claimEach]
  | cons fragment rest ih =>
      rw [claimEach, List.partition_eq_filter_filter, List.flatMap_cons]
      simp only [List.any_cons]
      exact ((ih _).append_left _).trans
        (filter_append_filter_perm _ (fun path => rest.any (claims root · path)) pool)

/-! ### Sorting -/

theorem pairwise_sorted (paths : List Path) :
    (sorted paths).Pairwise fun left right => left.le right = true :=
  List.pairwise_mergeSort Path.le_trans Path.le_total paths

theorem sorted_perm (paths : List Path) : (sorted paths).Perm paths :=
  List.mergeSort_perm paths Path.le

/-- Sorted lists of the same paths are the same, if paths with the same components are. -/
theorem eq_of_sorted {first second : List Path}
    (areSorted : first.Pairwise fun left right => left.le right = true)
    (areSortedToo : second.Pairwise fun left right => left.le right = true)
    (isPerm : first.Perm second)
    (areSame : ∀ left ∈ first, ∀ right ∈ first, left.components = right.components → left = right) :
    first = second := by
  refine isPerm.eq_of_pairwise ?_ areSorted areSortedToo
  intro left right isLeft isRight isLess isMore
  exact areSame left isLeft right (isPerm.mem_iff.mpr isRight)
    (Path.components_eq_of_le isLess isMore)

section Select

variable {root : Path} {candidates : List Path} {fragments : List String}

theorem select_of_fragments (areFragments : fragments ≠ []) :
    select root candidates fragments =
      sorted ((claimEach root candidates fragments).flatMap (·.paths)) := by
  rw [select, if_neg (by simpa using areFragments)]

theorem pairwise_select (areFragments : fragments ≠ []) :
    (select root candidates fragments).Pairwise fun left right => left.le right = true := by
  rw [select_of_fragments areFragments]
  exact pairwise_sorted _

theorem select_perm (areFragments : fragments ≠ []) :
    (select root candidates fragments).Perm
      (candidates.filter fun path => Matches fragments (relativeName root path)) := by
  rw [select_of_fragments areFragments]
  simp only [← any_claims]
  exact (sorted_perm _).trans (claimed_perm root candidates fragments)

/-- If no two candidates mean the same, fragments select from them in their order. -/
theorem select_eq_filter (areFragments : fragments ≠ [])
    (areSame : ∀ left ∈ candidates, ∀ right ∈ candidates,
      left.components = right.components → left = right) :
    select root candidates fragments =
      (sorted candidates).filter fun path => Matches fragments (relativeName root path) := by
  have isPerm : (select root candidates fragments).Perm _ := select_perm areFragments
  refine eq_of_sorted (pairwise_select areFragments) ((pairwise_sorted candidates).filter _)
    (isPerm.trans ((sorted_perm candidates).filter _).symm) fun left isLeft right isRight same => ?_
  exact areSame left (List.mem_of_mem_filter (isPerm.mem_iff.mp isLeft)) right
    (List.mem_of_mem_filter (isPerm.mem_iff.mp isRight)) same

theorem eq_of_components
    (areDistinct : candidates.Pairwise fun left right => left.same right = false)
    {left right : Path} (isLeft : left ∈ candidates) (isRight : right ∈ candidates)
    (same : left.components = right.components) : left = right := by
  have isSymm : Std.Symm fun first second : Path => first.same second = false := by
    constructor
    intro first second areOther
    rw [Path.same, decide_eq_false_iff_not] at areOther ⊢
    exact fun sameToo => areOther sameToo.symm
  by_contra isOther
  have areOther := areDistinct.forall isLeft isRight isOther
  rw [Path.same, decide_eq_false_iff_not] at areOther
  exact areOther same

theorem select_sublist {more : List String} (areFragments : fragments ≠ [])
    (areMore : fragments ⊆ more)
    (areDistinct : candidates.Pairwise fun left right => left.same right = false) :
    (select root candidates fragments).Sublist (select root candidates more) := by
  have areSome : more ≠ [] := by
    rintro rfl
    exact areFragments (List.subset_nil.mp areMore)
  have areSame : ∀ left ∈ candidates, ∀ right ∈ candidates,
      left.components = right.components → left = right :=
    fun left isLeft right isRight same => eq_of_components areDistinct isLeft isRight same
  rw [select_eq_filter areSome areSame, select_eq_filter areFragments areSame]
  refine List.monotone_filter_right _ fun path isMatch => ?_
  rw [decide_eq_true_eq] at isMatch ⊢
  exact isMatch.mono areMore

end Select

/-- Fragments select what a plain filter keeps of the candidates, each as often as it is there, and
put it in order.  If no two candidates mean the same, it does not matter how often and in which
order the fragments come, and more fragments select more. -/
theorem select_filters (root : Path) (candidates : List Path) {fragments : List String}
    (areFragments : fragments ≠ []) :
    (select root candidates fragments).Pairwise (fun left right => left.le right = true) ∧
    (select root candidates fragments).Perm
      (candidates.filter fun path => Matches fragments (relativeName root path)) ∧
    (∀ path, (select root candidates fragments).count path =
      if Matches fragments (relativeName root path) then candidates.count path else 0) ∧
    (candidates.Pairwise (fun left right => left.same right = false) →
      (∀ others, (∀ fragment, fragment ∈ others ↔ fragment ∈ fragments) →
        select root candidates others = select root candidates fragments) ∧
      ∀ more, fragments ⊆ more →
        (select root candidates fragments).Sublist (select root candidates more)) := by
  refine ⟨pairwise_select areFragments, select_perm areFragments, fun path => ?_,
    fun areDistinct => ?_⟩
  · rw [(select_perm areFragments).count_eq]
    split
    · rename_i isMatch
      exact List.count_filter (by simpa using isMatch)
    · rename_i isOther
      rw [List.count_eq_zero, List.mem_filter]
      simp [isOther]
  · constructor
    · intro others areOthers
      have areNone : fragments ⊆ others := fun fragment isThere => (areOthers fragment).mpr isThere
      have areMore : others ⊆ fragments := fun fragment isThere => (areOthers fragment).mp isThere
      have areSome : others ≠ [] := by
        rintro rfl
        exact areFragments (List.subset_nil.mp areNone)
      exact (select_sublist areSome areMore areDistinct).antisymm
        (select_sublist areFragments areNone areDistinct)
    · intro more areMore
      exact select_sublist areFragments areMore areDistinct

def sampleCandidates : List Path :=
  [⟨"/t/foobar.tst"⟩, ⟨"/t/ops/add.tst"⟩, ⟨"/t/baz.tst"⟩, ⟨"/t/foo1.tst"⟩]

/-- Both fragments are in one name, which is selected once. -/
theorem select_filters_overlapping :
    (select ⟨"/t"⟩ sampleCandidates ["foo.tst", "bar"]).Perm
      [⟨"/t/foobar.tst"⟩, ⟨"/t/foo1.tst"⟩] ∧
    select ⟨"/t"⟩ sampleCandidates ["bar", "foo.tst", "bar"] =
      select ⟨"/t"⟩ sampleCandidates ["foo.tst", "bar"] ∧
    (select ⟨"/t"⟩ sampleCandidates ["foo.tst", "bar"]).Sublist
      (select ⟨"/t"⟩ sampleCandidates ["ops/", "foo.tst", "bar"]) := by
  have areDistinct : sampleCandidates.Pairwise fun left right => left.same right = false := by
    decide
  have areKept : (sampleCandidates.filter fun path =>
      Matches ["foo.tst", "bar"] (relativeName ⟨"/t"⟩ path)) =
      [⟨"/t/foobar.tst"⟩, ⟨"/t/foo1.tst"⟩] := by
    decide
  obtain ⟨_, isPerm, _, isStable⟩ :=
    select_filters ⟨"/t"⟩ sampleCandidates (List.cons_ne_nil "foo.tst" ["bar"])
  obtain ⟨anyOrder, moreSelected⟩ := isStable areDistinct
  refine ⟨areKept ▸ isPerm, anyOrder _ fun fragment => ?_,
    moreSelected _ (List.subset_cons_self _ _)⟩
  simp only [List.mem_cons, List.not_mem_nil, or_false]
  tauto

end Discovery

end FixtureRunner
