/-
Paths with another extension.

However a path is spelled, another extension replaces what follows the stem of its name, and what
names nothing behind the name is dropped.  The exception is a name whose stem is a dot and that
ends the path: it becomes two dots.
-/

import FixtureRunner.Proofs.Path.Segments

namespace FixtureRunner.Path

/-! ### Segments that name nothing -/

/-- The segments name nothing where others stand before them. -/
def AreNameless (segments : List Text) : Prop :=
  ∀ segment ∈ segments, (component? segment).isSome = false

theorem areNameless_nil : AreNameless [] :=
  fun _ isThere => absurd isThere List.not_mem_nil

theorem areNameless_cons {segment : Text} {rest : List Text} :
    AreNameless (segment :: rest) ↔ (segment = [] ∨ segment = ['.']) ∧ AreNameless rest := by
  have isNameless : (component? segment).isSome = false ↔ segment = [] ∨ segment = ['.'] := by
    rw [← Bool.not_eq_true, component?_isSome_iff, ← not_or, not_not]
  rw [AreNameless, List.forall_mem_cons, isNameless]
  rfl

theorem AreNameless.separator_notMem {segments : List Text} (areNameless : AreNameless segments) :
    ∀ segment ∈ segments, '/' ∉ segment := by
  induction segments with
  | nil => exact fun _ isThere => absurd isThere List.not_mem_nil
  | cons first rest ih =>
      obtain ⟨isFirst, areRest⟩ := areNameless_cons.mp areNameless
      refine List.forall_mem_cons.mpr ⟨?_, ih areRest⟩
      rcases isFirst with rfl | rfl <;> decide

theorem AreNameless.namedRest {segments : List Text} (areNameless : AreNameless segments) :
    namedRest segments = [] := by
  induction segments with
  | nil => rfl
  | cons first rest ih =>
      simp [Path.namedRest, ih (areNameless_cons.mp areNameless).2,
        areNameless first List.mem_cons_self]

variable {trailing : List Text}

theorem namedRest_append_nameless (segments : List Text) (areNameless : AreNameless trailing) :
    namedRest (segments ++ trailing) = namedRest segments := by
  induction segments with
  | nil => exact areNameless.namedRest
  | cons first rest ih => rw [List.cons_append, namedRest, ih, namedRest]

theorem named_of_name (leading : List Text) {name : Text}
    (isNamed : (component? name).isSome = true) (areNameless : AreNameless trailing) :
    named (leading ++ name :: trailing) = leading ++ [name] := by
  have isAppended : leading ++ name :: trailing = (leading ++ [name]) ++ trailing := by simp
  obtain ⟨first, rest, isStart⟩ : ∃ first rest, leading ++ [name] = first :: rest :=
    List.exists_cons_of_ne_nil (by simp)
  have isNameless : named ((leading ++ [name]) ++ trailing) = named (leading ++ [name]) := by
    rw [isStart, List.cons_append, named, namedRest_append_nameless rest areNameless, named]
  rw [isAppended, isNameless, named_concat leading name isNamed]

/-- What is left of the text of segments that name nothing is the text of such segments. -/
theorem take_nameless (areNameless : AreNameless trailing) (count : Nat) :
    ∃ others, AreNameless others ∧ others.length ≤ trailing.length ∧
      (trailing.flatMap ('/' :: ·)).take count = others.flatMap ('/' :: ·) := by
  induction trailing generalizing count with
  | nil => exact ⟨[], areNameless_nil, by simp, by simp⟩
  | cons segment rest ih =>
      obtain ⟨isSegment, areRest⟩ := areNameless_cons.mp areNameless
      cases count with
      | zero => exact ⟨[], areNameless_nil, by simp, by simp⟩
      | succ count =>
          rcases isSegment with rfl | rfl
          · obtain ⟨others, areOthers, isFewer, isTaken⟩ := ih areRest count
            exact ⟨[] :: others, areNameless_cons.mpr ⟨Or.inl rfl, areOthers⟩,
              by simpa using isFewer, by simp [isTaken]⟩
          · cases count with
            | zero =>
                exact ⟨[[]], areNameless_cons.mpr ⟨Or.inl rfl, areNameless_nil⟩, by simp, by simp⟩
            | succ count =>
                obtain ⟨others, areOthers, isFewer, isTaken⟩ := ih areRest count
                exact ⟨['.'] :: others, areNameless_cons.mpr ⟨Or.inr rfl, areOthers⟩,
                  by simpa using isFewer, by simp [isTaken]⟩

/-! ### Another extension -/

section WithExtension

variable {path : Path} {leading trailing : List Text} {stem old : Text}

theorem name_ne_short {extension short : Text} (isNonempty : stem ≠ [])
    (isShort : short.length < extension.length + 2) : stem ++ '.' :: extension ≠ short := by
  intro same
  have lengths := congrArg List.length same
  have stemLength : 0 < stem.length := List.length_pos_iff.mpr isNonempty
  simp only [List.length_append, List.length_cons] at lengths
  omega

theorem extension?_ofSegments {extension : Text} (isNonempty : stem ≠ [])
    (isDotless : '.' ∉ extension) (isNoDots : stem ++ '.' :: extension ≠ ['.', '.'])
    (areFree : ∀ segment ∈ leading ++ [stem ++ '.' :: extension], '/' ∉ segment) :
    (ofSegments (leading ++ [stem ++ '.' :: extension])).extension? = some extension := by
  rw [extension?, fileName?_ofSegments leading _ (by simp) (name_ne_short isNonempty (by simp))
    isNoDots areFree, Option.bind_some, cutName_concat stem _ isNonempty isDotless]

/-- Where segments that name nothing follow the name, they are cut instead of the extension, as
far as they go. -/
theorem dropExtension_eq (hasExtension : path.extension? = some old)
    (areSegments : path.segments = leading ++ (stem ++ '.' :: old) :: trailing)
    (areNameless : AreNameless trailing) :
    ∃ others, AreNameless others ∧ others.length ≤ trailing.length ∧
      path.dropExtension = ofSegments (leading ++
        (stem ++ '.' :: old.take (trailing.flatMap ('/' :: ·)).length) :: others) := by
  have isDotted (extension : Text) : stem ++ '.' :: extension = (stem ++ ['.']) ++ extension := by
    simp
  have isText : path.text.toList = ['/'].intercalate (leading ++ [stem ++ ['.']]) ++
      (old ++ trailing.flatMap ('/' :: ·)) := by
    rw [← path.ofSegments_segments, ofSegments, String.toList_ofList, areSegments, isDotted,
      intercalate_append_cons]
  obtain ⟨others, areOthers, areFewer, isTaken⟩ := take_nameless areNameless
    ((trailing.flatMap ('/' :: ·)).length - old.length)
  refine ⟨others, areOthers, areFewer, ?_⟩
  have isLength (base behind : Nat) : base + (old.length + behind) - old.length = base + behind := by
    omega
  rw [dropExtension, hasExtension, isText]
  simp only [List.length_append, isLength]
  rw [List.take_length_add_append, List.take_append, isTaken, ofSegments,
    isDotted (old.take _), intercalate_append_cons leading (stem ++ ['.'])]

theorem setExtension_eq (areSegments : path.segments = leading ++ (stem ++ '.' :: old) :: trailing)
    (areNameless : AreNameless trailing) (isNonempty : stem ≠ []) (isDotless : '.' ∉ old)
    (isNoDots : stem ++ '.' :: old ≠ ['.', '.']) (extension : String) :
    path.setExtension extension = ofSegments (leading ++ [stem ++ '.' :: extension.toList]) := by
  have isNoDot : stem ++ '.' :: old ≠ ['.'] := name_ne_short isNonempty (by simp)
  have isNamed : (component? (stem ++ '.' :: old)).isSome = true :=
    (component?_isSome_iff _).mpr ⟨by simp, isNoDot⟩
  have areNamed : named path.segments = leading ++ [stem ++ '.' :: old] := by
    rw [areSegments, named_of_name leading isNamed areNameless]
  have hasStem : path.stem? = some stem := by
    rw [stem?, fileName?, areNamed]
    simp [isNoDot, isNoDots, cutName_concat stem old isNonempty isDotless]
  rw [setExtension, hasStem, areNamed]
  simp

/-- Another extension stands behind the stem, and nothing behind it, unless the stem is a dot and
the name ends the path. -/
theorem withExtension_eq (hasExtension : path.extension? = some old) (isExtended : old ≠ [])
    (areSegments : path.segments = leading ++ (stem ++ '.' :: old) :: trailing)
    (isNonempty : stem ≠ []) (isDotless : '.' ∉ old) (areNameless : AreNameless trailing)
    (isNotBare : ¬(trailing = [] ∧ stem = ['.'])) (extension : String) :
    path.withExtension extension = ofSegments (leading ++ [stem ++ '.' :: extension.toList]) := by
  obtain ⟨others, areOthers, _, isDropped⟩ := dropExtension_eq hasExtension areSegments areNameless
  have areFree : ∀ segment ∈ leading ++ (stem ++ '.' :: old) :: trailing, '/' ∉ segment := by
    rw [← areSegments]
    exact fun segment isThere => separator_not_mem_segment isThere
  have isCutDotless : '.' ∉ old.take (trailing.flatMap ('/' :: ·)).length :=
    fun isThere => isDotless (List.mem_of_mem_take isThere)
  have areFreeStill : ∀ segment ∈ leading ++
      (stem ++ '.' :: old.take (trailing.flatMap ('/' :: ·)).length) :: others, '/' ∉ segment := by
    simp only [List.forall_mem_append, List.forall_mem_cons] at areFree ⊢
    refine ⟨areFree.1, ?_, areOthers.separator_notMem⟩
    have isFree := areFree.2.1
    simp only [List.mem_append, List.mem_cons, not_or] at isFree ⊢
    exact ⟨isFree.1, isFree.2.1, fun isThere => isFree.2.2 (List.mem_of_mem_take isThere)⟩
  -- A dot alone before the cut extension is left only if nothing follows the name.
  have isNoDots : stem ++ '.' :: old.take (trailing.flatMap ('/' :: ·)).length ≠ ['.', '.'] := by
    intro same
    have isShort := congrArg List.length same
    have stemLength : 0 < stem.length := List.length_pos_iff.mpr isNonempty
    have oldLength : 0 < old.length := List.length_pos_iff.mpr isExtended
    simp only [List.length_append, List.length_cons, List.length_nil, List.length_take] at isShort
    have isNoMore : (trailing.flatMap ('/' :: ·)).length = 0 := by omega
    have isNone : trailing = [] := by
      cases trailing with
      | nil => rfl
      | cons next rest => simp at isNoMore
    refine isNotBare ⟨isNone, ?_⟩
    rw [isNoMore, List.take_zero] at same
    exact List.append_cancel_right (same.trans (by rfl : ['.', '.'] = ['.'] ++ ['.']))
  rw [withExtension, isDropped]
  exact setExtension_eq (segments_ofSegments _ (by simp) areFreeStill) areOthers isNonempty
    isCutDotless isNoDots extension

theorem withExtension_ofSegments (extension : String) (isNonempty : stem ≠ [])
    (isNoDot : stem ≠ ['.']) (isExtended : old ≠ []) (isDotless : '.' ∉ old)
    (areFree : ∀ segment ∈ leading ++ [stem ++ '.' :: old], '/' ∉ segment) :
    (ofSegments (leading ++ [stem ++ '.' :: old])).withExtension extension =
      ofSegments (leading ++ [stem ++ '.' :: extension.toList]) := by
  have isNoDots : stem ++ '.' :: old ≠ ['.', '.'] :=
    name_ne_short isNonempty (by simpa using List.length_pos_iff.mpr isExtended)
  exact withExtension_eq (extension?_ofSegments isNonempty isDotless isNoDots areFree) isExtended
    (segments_ofSegments _ (by simp) areFree) isNonempty isDotless areNameless_nil
    (fun isBare => isNoDot isBare.2) extension

/-- A stem that is a dot becomes two dots, which take no extension. -/
theorem withExtension_dots (extension : String) (isExtended : old ≠ []) (isDotless : '.' ∉ old)
    (areFree : ∀ segment ∈ leading ++ [['.'] ++ '.' :: old], '/' ∉ segment) :
    (ofSegments (leading ++ [['.'] ++ '.' :: old])).withExtension extension =
      ofSegments (leading ++ [['.', '.']]) := by
  have areFreeDots : ∀ segment ∈ leading ++ [['.', '.']], '/' ∉ segment := by
    simp only [List.forall_mem_append, List.forall_mem_singleton] at areFree ⊢
    exact ⟨areFree.1, by decide⟩
  have hasNoStem : (ofSegments (leading ++ [['.', '.']])).stem? = none := by
    rw [stem?, fileName?, segments_ofSegments _ (by simp) areFreeDots,
      named_concat leading _ (by decide)]
    simp
  obtain ⟨others, _, areFewer, isDropped⟩ := dropExtension_eq
    (extension?_ofSegments (by simp) isDotless (by simpa using isExtended) areFree)
    (segments_ofSegments _ (by simp) areFree) areNameless_nil
  obtain rfl : others = [] := List.length_eq_zero_iff.mp (Nat.le_zero.mp areFewer)
  rw [withExtension, isDropped]
  change (ofSegments (leading ++ [['.', '.']])).setExtension extension = _
  rw [setExtension, hasNoStem]

end WithExtension

/-- The parts of a path with an extension, and what another extension makes of them. -/
theorem withExtension_cases {path : Path} {old : Text} (hasExtension : path.extension? = some old)
    (isExtended : old ≠ []) :
    ∃ leading stem trailing, path.segments = leading ++ (stem ++ '.' :: old) :: trailing ∧
      stem ≠ [] ∧ AreNameless trailing ∧
      (¬(trailing = [] ∧ stem = ['.']) ∧ (∀ extension, path.withExtension extension =
          ofSegments (leading ++ [stem ++ '.' :: extension.toList])) ∨
        (trailing = [] ∧ stem = ['.']) ∧
          ∀ extension, path.withExtension extension = ofSegments (leading ++ [['.', '.']])) := by
  obtain ⟨leading, stem, trailing, areSegments, isNonempty, isDotless, areNameless⟩ :=
    extension?_eq_some hasExtension
  refine ⟨leading, stem, trailing, areSegments, isNonempty, areNameless, ?_⟩
  by_cases isBare : trailing = [] ∧ stem = ['.']
  · obtain ⟨rfl, rfl⟩ := isBare
    refine Or.inr ⟨⟨rfl, rfl⟩, fun extension => ?_⟩
    have areFree : ∀ segment ∈ leading ++ [['.'] ++ '.' :: old], '/' ∉ segment := by
      rw [← areSegments]
      exact fun segment isThere => separator_not_mem_segment isThere
    rw [← path.ofSegments_segments, areSegments,
      withExtension_dots extension isExtended isDotless areFree]
  · exact Or.inl ⟨isBare, withExtension_eq hasExtension isExtended areSegments isNonempty isDotless
      areNameless isBare⟩

end FixtureRunner.Path
