/-
Reading values of an expected kind.

A reader takes the spelling of a value whatever blanks stand before it and whatever can follow it,
and so it takes lists of such spellings.
-/

import FixtureRunner.Proofs.Json.Numbers
import FixtureRunner.Proofs.Json.Strings

namespace FixtureRunner.Json.Reader

variable {α : Type}

/-- Wherever it may stand, the reader takes the spelling as this value. -/
structure Takes (reader : Reader α) (spelling : Bytes) (value : α) : Prop where
  starts : ∃ byte rest, spelling = byte :: rest ∧ byte ∉ separators
  reads : ∀ (blank : Blank) {behind : Bytes}, Ends behind →
    reader.Reads (blank.bytes ++ (spelling ++ behind)) value behind

variable {spelling tail : Bytes}

theorem Takes.map {β : Type} {reader : Reader α} {value : α} (takes : reader.Takes spelling value)
    (convert : α → β) :
    (reader >>= fun value => pure (convert value)).Takes spelling (convert value) :=
  ⟨takes.starts, fun blank _ ends => (takes.reads blank ends).bind (reads_pure _ _)⟩

theorem reads_first (starts : ∃ byte rest, spelling = byte :: rest ∧ byte ∉ separators)
    (blank : Blank) (behind : Bytes) :
    peekToken.Reads (blank.bytes ++ (spelling ++ behind)) spelling.head? (spelling ++ behind) := by
  obtain ⟨byte, rest, rfl, isNoSeparator⟩ := starts
  exact reads_token blank (fun isBlank => isNoSeparator (List.mem_append_left _ isBlank)) _

/-! ### Single values -/

theorem takes_text {text : Text} (spells : Spells text spelling) (expected : String) :
    (Reader.text expected).Takes (inQuotes spelling) text :=
  ⟨⟨_, _, rfl, by decide⟩, fun blank behind _ =>
    (reads_token blank (by decide) _).bind (reads_string spells behind)⟩

theorem starts_digitBytes (value : Nat) :
    ∃ byte rest, digitBytes value = byte :: rest ∧ byte ∉ separators ∧ startsNumber byte = true ∧
      ∀ char ∈ ['n', 't', 'f', '"', '[', '\x7b'], byte ≠ ascii char := by
  obtain ⟨byte, rest, areBytes, isDigit, _⟩ := digitBytes_cons value
  have areOther : ∀ byte ∈ separators ++ ['n', 't', 'f', '"', '[', '\x7b'].map ascii,
      Json.isDigit byte = false := List.all_iff_forall_prop.mp (by decide)
  have isOther : byte ∉ separators ++ ['n', 't', 'f', '"', '[', '\x7b'].map ascii := by
    intro isThere
    rw [areOther byte isThere] at isDigit
    cases isDigit
  rw [List.mem_append, not_or] at isOther
  refine ⟨byte, rest, areBytes, isOther.1, by rw [startsNumber, isDigit, Bool.or_true], ?_⟩
  rintro char isChar rfl
  exact isOther.2 (List.mem_map_of_mem isChar)

theorem takes_natural {value : Nat} (fits : value ≤ greatestNatural) (expected : String) :
    (natural expected).Takes (digitBytes value) value := by
  obtain ⟨byte, rest, areBytes, isNoSeparator, isNumber, _⟩ := starts_digitBytes value
  have starts : ∃ byte rest, digitBytes value = byte :: rest ∧ byte ∉ separators :=
    ⟨byte, rest, areBytes, isNoSeparator⟩
  refine ⟨starts, fun blank behind ends => (reads_first starts blank behind).bind ?_⟩
  have isFirst : (digitBytes value).head? = some byte := by rw [areBytes]; rfl
  simp only [isFirst, isNumber, if_true]
  exact (reads_number fits ends).bind (reads_pure value behind)

theorem OtherNumber.head {bytes : Bytes} (isOther : OtherNumber bytes) :
    ∃ byte rest, bytes = byte :: rest ∧ byte ∉ blankBytes ∧ byte ≠ ascii 'n' ∧
      (startsNumber byte = true ∨ byte = ascii '+') := by
  have digits (whole : Nat) (behind : Bytes) : ∃ byte rest, digitBytes whole ++ behind =
      byte :: rest ∧ byte ∉ blankBytes ∧ byte ≠ ascii 'n' ∧
      (startsNumber byte = true ∨ byte = ascii '+') := by
    obtain ⟨byte, rest, areBytes, isNoSeparator, isNumber, isNoWord⟩ := starts_digitBytes whole
    refine ⟨byte, rest ++ behind, by rw [areBytes]; rfl, ?_, isNoWord 'n' (by decide), Or.inl isNumber⟩
    exact fun isBlank => isNoSeparator (List.mem_append_left _ isBlank)
  cases isOther with
  | @signed sign rest isSign =>
      have areSigns : ∀ sign ∈ ['+', '-'], ascii sign ∉ blankBytes ∧ ascii sign ≠ ascii 'n' ∧
          (startsNumber (ascii sign) = true ∨ ascii sign = ascii '+') :=
        List.all_iff_forall_prop.mp (by decide)
      exact ⟨_, _, rfl, areSigns sign isSign⟩
  | marked whole rest _ => exact digits whole _
  | tooLarge _ _ => exact digits _ _

theorem faults_natural (expected : String) (blank : Blank) {bytes : Bytes}
    (isOther : OtherNumber bytes) : (natural expected).Faults (blank.bytes ++ bytes) := by
  obtain ⟨byte, rest, rfl, isToken, _, isStart⟩ := isOther.head
  refine (reads_token blank isToken rest).bind_faults ?_
  rcases isStart with isNumber | rfl
  · simp only [isNumber, if_true]
    have unnatural := isOther.unnatural fun first isFirst => Option.some.inj isFirst ▸ isNumber
    intro place
    cases ran : number.run ⟨byte :: rest, place⟩ with
    | mk result after =>
        cases result with
        | error fault => exact ⟨fault, after, run_bind_error ran⟩
        | ok found =>
            cases found with
            | natural value => exact absurd ran (unnatural place value after)
            | negative value => exact ⟨_, _, run_bind_ok ran⟩
            | real isNegative magnitude => exact ⟨_, _, run_bind_ok ran⟩
  · -- No value begins with a plus sign.
    exact fun _ => ⟨_, _, rfl⟩

section Nullable

variable {reader : Reader α}

theorem takes_null : (nullable reader).Takes (wordBytes ['n', 'u', 'l', 'l']) none := by
  refine ⟨⟨_, _, rfl, by decide⟩, fun blank behind _ => (reads_token blank (by decide) _).bind ?_⟩
  rw [if_pos rfl]
  refine (reads_drop (ascii 'n') _).bind ?_
  exact (reads_finishWord ['u', 'l', 'l'] behind).bind (reads_pure none behind)

theorem Takes.nullable {spelling : Bytes} {value : α} (takes : reader.Takes spelling value)
    (isNoNull : spelling.head? ≠ some (ascii 'n')) :
    (Reader.nullable reader).Takes spelling (some value) := by
  refine ⟨takes.starts, fun blank behind ends => (reads_first takes.starts blank behind).bind ?_⟩
  rw [if_neg isNoNull]
  exact (takes.reads Blank.none ends).bind (reads_pure _ _)

theorem Faults.nullable {blank : Blank} {byte : UInt8} {rest : Bytes} (isToken : byte ∉ blankBytes)
    (isNoNull : byte ≠ ascii 'n') (faults : reader.Faults (byte :: rest)) :
    (Reader.nullable reader).Faults (blank.bytes ++ byte :: rest) := by
  refine (reads_token blank isToken rest).bind_faults ?_
  rw [if_neg fun isSame => isNoNull (Option.some.inj isSame)]
  exact faults.bind

end Nullable

/-! ### Punctuation -/

theorem length_le_punctuated (isFirst : Bool) (pieces : List Bytes) :
    pieces.length ≤ (punctuated isFirst pieces).length + 1 := by
  have isLong (others : List Bytes) : others.length ≤ (punctuated false others).length := by
    induction others with
    | nil => exact Nat.le_refl 0
    | cons piece others ih =>
        simp only [punctuated, List.length_append, List.length_cons, Bool.false_eq_true, if_false]
        omega
  cases pieces with
  | nil => exact Nat.zero_le _
  | cons piece others =>
      have isLong := isLong others
      simp only [punctuated, List.length_append, List.length_cons]
      omega

theorem ends_punctuated (pieces : List Bytes) (ends : Ends tail) :
    Ends (punctuated false pieces ++ tail) := by
  cases pieces with
  | nil => exact ends
  | cons piece others => exact ends_cons (by decide) _

theorem ends_close (tail : Bytes) : Ends (ascii ']' :: tail) ∧ Ends (ascii '\x7d' :: tail) :=
  ⟨ends_cons (by decide) tail, ends_cons (by decide) tail⟩

theorem Takes.piece {reader : Reader α} {piece : Piece} {value : α}
    (takes : reader.Takes piece.spelling value) (ends : Ends tail) :
    reader.Reads (piece.bytes ++ tail) value (piece.after.bytes ++ tail) := by
  rw [Piece.bytes, List.append_assoc, List.append_assoc]
  exact takes.reads piece.before (ends_blank piece.after ends)

/-! ### Lists -/

theorem reads_hasItem {piece : Piece}
    (starts : ∃ byte rest, piece.spelling = byte :: rest ∧ byte ∉ separators) (isFirst : Bool)
    (blank : Blank) (tail : Bytes) :
    (hasItem isFirst).Reads
      (blank.bytes ++ ((if isFirst then [] else [ascii ',']) ++ (piece.bytes ++ tail))) true
      (piece.spelling ++ (piece.after.bytes ++ tail)) := by
  have reads := fun before => reads_first starts before (piece.after.bytes ++ tail)
  obtain ⟨byte, rest, isSpelling, isNoSeparator⟩ := starts
  have isNoClose : byte ≠ ascii ']' := by
    rintro rfl
    exact isNoSeparator (by decide)
  rw [isSpelling] at reads ⊢
  simp only [Piece.bytes, List.append_assoc, isSpelling]
  cases isFirst with
  | true =>
      have readsFirst := reads (blank.append piece.before)
      simp only [Blank.append, List.append_assoc] at readsFirst
      refine readsFirst.bind ?_
      simp only [List.head?_cons, if_neg isNoClose]
      exact reads_pure true _
  | false =>
      refine (reads_token blank (by decide) _).bind ((reads_drop (ascii ',') _).bind ?_)
      refine (reads piece.before).bind ?_
      simp only [List.head?_cons, if_neg isNoClose]
      exact reads_pure true _

section Items

variable {ι : Type} {piece : ι → Piece} {reader : Reader α} {value : ι → α}

/-- The loop over the items of a list, by induction on the items that are left. -/
theorem reads_items (pieces : List ι)
    (takes : ∀ item ∈ pieces, reader.Takes (piece item).spelling (value item))
    {room : Nat} (fits : pieces.length < room) (isFirst : Bool) (blank : Blank) (tail : Bytes) :
    (items reader room isFirst).Reads
      (blank.bytes ++ (punctuated isFirst (pieces.map fun item => (piece item).bytes) ++
        ascii ']' :: tail)) (pieces.map value) (ascii ']' :: tail) := by
  induction pieces generalizing room isFirst blank with
  | nil =>
      obtain ⟨left, rfl⟩ := Nat.exists_eq_succ_of_ne_zero (Nat.ne_of_gt fits)
      have closed : (hasItem isFirst).Reads (blank.bytes ++ ascii ']' :: tail) false
          (ascii ']' :: tail) := (reads_token blank (by decide) tail).bind (reads_pure false _)
      exact closed.bind (reads_pure [] _)
  | cons item others ih =>
      obtain ⟨left, rfl⟩ := Nat.exists_eq_succ_of_ne_zero (Nat.ne_of_gt (Nat.zero_lt_of_lt fits))
      obtain ⟨takesItem, takesOthers⟩ := List.forall_mem_cons.mp takes
      have ends := ends_blank (piece item).after
        (ends_punctuated (others.map fun item => (piece item).bytes) (ends_close tail).1)
      rw [List.map_cons, List.map_cons, punctuated, List.append_assoc, List.append_assoc]
      refine (reads_hasItem takesItem.starts isFirst blank _).bind ?_
      refine (takesItem.reads Blank.none ends).bind ?_
      exact (ih takesOthers (Nat.lt_of_succ_lt_succ fits) false _).bind (reads_pure _ _)

theorem takes_list (pieces : List ι)
    (takes : ∀ item ∈ pieces, reader.Takes (piece item).spelling (value item)) (inside : Blank) :
    (list reader).Takes (bracketed '[' ']' inside (pieces.map fun item => (piece item).bytes))
      (pieces.map value) := by
  refine ⟨⟨_, _, rfl, by decide⟩, fun blank behind _ => ?_⟩
  simp only [bracketed, List.cons_append, List.append_assoc, List.nil_append]
  refine (reads_token blank (by decide) _).bind ((reads_drop (ascii '[') _).bind ?_)
  refine leads_get fun place => ?_
  refine (reads_items pieces takes ?_ true inside behind).closing ?_
  · have isLong := length_le_punctuated true (pieces.map fun item => (piece item).bytes)
    simp only [List.length_map, List.length_append, List.length_cons] at isLong ⊢
    omega
  · exact (reads_token Blank.none (by decide) behind).bind (reads_drop (ascii ']') behind)

end Items

/-! ### Objects -/

theorem reads_nextKey (field : Field) (isFirst : Bool) (blank : Blank) (rest : Bytes) :
    (nextKey isFirst).Reads
      (blank.bytes ++ ((if isFirst then [] else [ascii ',']) ++ field.front rest))
      (some field.name.toList) (field.between.bytes ++ ascii ':' :: rest) := by
  have readsName := reads_string field.isName (field.between.bytes ++ ascii ':' :: rest)
  have readsQuote (before : Blank) : peekToken.Reads
      (before.bytes ++ (inQuotes field.nameSpelling ++ (field.between.bytes ++ ascii ':' :: rest)))
      (some (ascii '"')) _ := reads_token before (by decide) _
  cases isFirst with
  | true =>
      have reads := readsQuote (blank.append field.before)
      simp only [Blank.append, List.append_assoc] at reads
      exact reads.bind (readsName.bind (reads_pure _ _))
  | false =>
      refine (reads_token blank (by decide) _).bind ((reads_drop (ascii ',') _).bind ?_)
      exact (readsQuote field.before).bind (readsName.bind (reads_pure _ _))

theorem reads_nextKey_none (isFirst : Bool) (blank : Blank) (tail : Bytes) :
    (nextKey isFirst).Reads (blank.bytes ++ ascii '\x7d' :: tail) none (ascii '\x7d' :: tail) :=
  (reads_token blank (by decide) tail).bind (reads_pure none _)

theorem reads_closeObject (tail : Bytes) : closeObject.Reads (ascii '\x7d' :: tail) () tail :=
  (reads_token Blank.none (by decide) tail).bind (reads_drop (ascii '\x7d') tail)

theorem reads_colon (blank : Blank) (tail : Bytes) :
    colon.Reads (blank.bytes ++ ascii ':' :: tail) () tail :=
  (reads_token blank (by decide) tail).bind (reads_drop (ascii ':') tail)

/-! ### The end of the document -/

theorem reads_finish (blank : Blank) : finish.Reads blank.bytes () [] := by
  have reads : peekToken.Reads (blank.bytes ++ []) none [] := reads_peekToken blank (by simp)
  rw [List.append_nil] at reads
  exact reads.bind (reads_pure () [])

theorem faults_finish (isOther : ∃ byte ∈ tail, byte ∉ blankBytes) : finish.Faults tail := by
  have isSplit : ∃ (blank : Blank) (byte : UInt8) (rest : Bytes),
      tail = blank.bytes ++ byte :: rest ∧ byte ∉ blankBytes := by
    have isFound : (tail.find? fun byte => byte ∉ blankBytes).isSome = true := by
      simpa using isOther
    obtain ⟨byte, isFirst⟩ := Option.isSome_iff_exists.mp isFound
    obtain ⟨isNoBlank, front, rest, rfl, areBlank⟩ := List.find?_eq_some_iff_append.mp isFirst
    exact ⟨⟨front, by simpa using areBlank⟩, byte, rest, rfl, of_decide_eq_true isNoBlank⟩
  obtain ⟨blank, byte, rest, rfl, isNoBlank⟩ := isSplit
  exact (reads_token blank isNoBlank rest).bind_faults (faults_failAhead _ _)

end FixtureRunner.Json.Reader
