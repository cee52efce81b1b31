/-
Reading numbers.

A number from 0 to 2^64 - 1 that is spelled by its digits alone is read as itself.  A number with
a sign, a fraction or an exponent and a number that is too large are never read as natural ones.
-/

import FixtureRunner.Proofs.Json.Reading

namespace FixtureRunner.Json

/-! ### Digits -/

theorem digitBytes_single {digit : Nat} (isSmall : digit < 10) :
    digitBytes digit = [ascii digit.digitChar] := by
  rw [digitBytes, Nat.toDigits_of_lt_base isSmall]
  rfl

theorem digitBytes_append {front digit : Nat} (isFront : 0 < front) (isSmall : digit < 10) :
    digitBytes (10 * front + digit) = digitBytes front ++ [ascii digit.digitChar] := by
  rw [digitBytes, ← Nat.toDigits_append_toDigits (by decide) isFront isSmall, List.map_append,
    Nat.toDigits_of_lt_base isSmall]
  rfl

theorem digit_facts {digit : Nat} (isSmall : digit < 10) :
    isDigit (ascii digit.digitChar) = true ∧ digitValue (ascii digit.digitChar) = digit ∧
      (digit ≠ 0 → ascii digit.digitChar ≠ ascii '0') := by
  have areFacts : ∀ digit < 10, isDigit (ascii digit.digitChar) = true ∧
      digitValue (ascii digit.digitChar) = digit ∧
      (digit ≠ 0 → ascii digit.digitChar ≠ ascii '0') := by decide
  exact areFacts digit isSmall

theorem isDigit_of_mem_digitBytes (value : Nat) :
    ∀ byte ∈ digitBytes value, isDigit byte = true := by
  induction value using Nat.base_induction 10 (by decide) with
  | single digit isSmall =>
      rw [digitBytes_single isSmall, List.forall_mem_singleton]
      exact (digit_facts isSmall).1
  | digit front digit isSmall isFront ih =>
      rw [digitBytes_append isFront isSmall, List.forall_mem_append, List.forall_mem_singleton]
      exact ⟨ih, (digit_facts isSmall).1⟩

theorem digitBytes_cons (value : Nat) :
    ∃ byte rest, digitBytes value = byte :: rest ∧ isDigit byte = true ∧
      (value ≠ 0 → byte ≠ ascii '0') := by
  induction value using Nat.base_induction 10 (by decide) with
  | single digit isSmall =>
      obtain ⟨isDigit, _, isNoZero⟩ := digit_facts isSmall
      exact ⟨_, [], digitBytes_single isSmall, isDigit, isNoZero⟩
  | digit front digit isSmall isFront ih =>
      obtain ⟨byte, rest, areBytes, isDigit, isNoZero⟩ := ih
      refine ⟨byte, rest ++ [ascii digit.digitChar], ?_, isDigit, fun _ => isNoZero (by omega)⟩
      rw [digitBytes_append isFront isSmall, areBytes, List.cons_append]

/-! ### Significands -/

theorem absorb_append (start : Nat) (digits more : List Nat) :
    absorb start (digits ++ more) =
      if (absorb start digits).2.isEmpty then absorb (absorb start digits).1 more
      else ((absorb start digits).1, (absorb start digits).2 ++ more) := by
  induction digits generalizing start with
  | nil => rfl
  | cons digit rest ih =>
      rw [List.cons_append, absorb, absorb]
      split
      · exact ih _
      · rfl

/-- The digits of a number that fits make up the number; otherwise some are left. -/
theorem absorb_digitBytes (value : Nat) :
    (value ≤ greatestNatural → absorb 0 ((digitBytes value).map digitValue) = (value, [])) ∧
      (greatestNatural < value →
        (absorb 0 ((digitBytes value).map digitValue)).2.isEmpty = false) := by
  have isLarge : 10 ≤ greatestNatural := by decide
  induction value using Nat.base_induction 10 (by decide) with
  | single digit isSmall =>
      rw [digitBytes_single isSmall, List.map_singleton, (digit_facts isSmall).2.1, absorb,
        Nat.zero_mul, Nat.zero_add]
      exact ⟨fun fits => if_pos fits, fun isTooLarge => by omega⟩
  | digit front digit isSmall isFront ih =>
      have isNext : front * 10 + digit = 10 * front + digit := by omega
      rw [digitBytes_append isFront isSmall, List.map_append, List.map_singleton,
        (digit_facts isSmall).2.1]
      refine ⟨fun fits => ?_, fun isTooLarge => ?_⟩
      · simp [absorb_append, ih.1 (by omega), absorb, isNext, fits]
      · -- Either the last digit is left, or already one before it.
        by_cases fitsFront : front ≤ greatestNatural
        · simp [absorb_append, ih.1 fitsFront, absorb, isNext, Nat.not_le.mpr isTooLarge]
        · simp [absorb_append, ih.2 (by omega)]

namespace Reader

/-! ### Behind the digits -/

theorem not_digit_of_ends {behind : Bytes} (ends : Ends behind) :
    ∀ byte ∈ behind.head?, isDigit byte = false ∧ byte ≠ ascii '.' ∧ byte ≠ ascii 'e' ∧
      byte ≠ ascii 'E' := by
  have areOther : ∀ byte ∈ separators,
      isDigit byte = false ∧ byte ≠ ascii '.' ∧ byte ≠ ascii 'e' ∧ byte ≠ ascii 'E' :=
    List.all_iff_forall_prop.mp (by decide)
  exact fun byte isFirst => areOther byte (ends byte isFirst)

section Digits

variable {behind : Bytes} (isEnd : ∀ byte ∈ behind.head?, isDigit byte = false)

include isEnd

theorem reads_takeDigits {digits : Bytes} (areDigits : ∀ byte ∈ digits, isDigit byte = true) :
    takeDigits.Reads (digits ++ behind) (digits.map digitValue) behind := by
  refine leads_get fun place => ?_
  dsimp only
  rw [takeWhile_append areDigits isEnd]
  exact (reads_over fun place => rfl).bind (reads_pure _ behind)

/-- The digits of a number lead to the part behind them.  A zero is dropped, which makes no
difference to the number. -/
theorem leads_unsignedNumber (isNegative : Bool) (whole : Nat) :
    ∃ digits, absorb 0 digits = absorb 0 ((digitBytes whole).map digitValue) ∧
      (unsignedNumber isNegative).Leads (digitBytes whole ++ behind)
        (numberTail isNegative digits) behind := by
  by_cases isZero : whole = 0
  · subst isZero
    refine ⟨[], by decide, ?_⟩
    refine (reads_peek (ascii '0' :: behind)).bind ((reads_drop (ascii '0') behind).bind ?_)
    refine (reads_peek behind).bind ?_
    cases behind with
    | nil => exact Leads.refl _ _
    | cons byte others =>
        simp only [List.head?_cons, isEnd byte rfl]
        exact Leads.refl _ _
  · obtain ⟨byte, rest, areBytes, isFirst, isNoZero⟩ := digitBytes_cons whole
    refine ⟨_, rfl, (reads_peek _).bind ?_⟩
    have isHead : (digitBytes whole ++ behind).head? = some byte := by rw [areBytes]; rfl
    simp only [isHead, if_neg (isNoZero isZero), isFirst]
    exact (reads_takeDigits isEnd (isDigit_of_mem_digitBytes whole)).leads

theorem leads_number (whole : Nat) :
    ∃ digits, absorb 0 digits = absorb 0 ((digitBytes whole).map digitValue) ∧
      number.Leads (digitBytes whole ++ behind) (numberTail false digits) behind := by
  obtain ⟨digits, areDigits, leads⟩ := leads_unsignedNumber isEnd false whole
  obtain ⟨byte, rest, areBytes, isFirst, _⟩ := digitBytes_cons whole
  refine ⟨digits, areDigits, (reads_peek _).bind ?_⟩
  have isNoMinus : (digitBytes whole ++ behind).head? ≠ some (ascii '-') := by
    rw [areBytes]
    rintro same
    rw [Option.some.inj same] at isFirst
    exact absurd isFirst (by decide)
  rw [if_neg isNoMinus]
  exact leads

end Digits

theorem reads_number {whole : Nat} (fits : whole ≤ greatestNatural) {behind : Bytes}
    (ends : Ends behind) : number.Reads (digitBytes whole ++ behind) (.natural whole) behind := by
  have isEnd := not_digit_of_ends ends
  have isOther (char : Char) (differs : ∀ byte ∈ behind.head?, byte ≠ ascii char) :
      behind.head? ≠ some (ascii char) :=
    fun same => differs _ same rfl
  obtain ⟨digits, areDigits, leads⟩ := leads_number (fun byte isFirst => (isEnd byte isFirst).1) whole
  refine leads.trans ?_
  rw [numberTail, areDigits, (absorb_digitBytes whole).1 fits]
  refine (reads_peek behind).bind ?_
  simp only [isOther '.' fun byte isFirst => (isEnd byte isFirst).2.1,
    isOther 'e' fun byte isFirst => (isEnd byte isFirst).2.2.1,
    isOther 'E' fun byte isFirst => (isEnd byte isFirst).2.2.2]
  exact reads_pure _ behind

/-! ### Other numbers -/

def Unnatural (reader : Reader Number) : Prop :=
  ∀ cursor value after, reader.run cursor ≠ (.ok (.natural value), after)

theorem unnatural_bind {α : Type} {reader : Reader α} {next : α → Reader Number}
    (unnatural : ∀ value, (next value).Unnatural) : (reader >>= next).Unnatural := by
  intro cursor value after same
  cases ran : reader.run cursor with
  | mk result between =>
      cases result with
      | ok first => exact unnatural first between value after (run_bind_ok ran ▸ same)
      | error fault =>
          rw [run_bind_error ran] at same
          cases (Prod.mk.inj same).1

theorem unnatural_failHere (cause : Cause) : (failHere cause : Reader Number).Unnatural :=
  fun _ _ _ same => by cases (Prod.mk.inj same).1

theorem unnatural_failAhead (cause : Cause) : (failAhead cause : Reader Number).Unnatural :=
  fun _ _ _ same => by cases (Prod.mk.inj same).1

theorem unnatural_real (isNegative : Bool) (magnitude : Decimal.Double) :
    (pure (.real isNegative magnitude) : Reader Number).Unnatural :=
  fun _ _ _ same => by cases (Prod.mk.inj same).1

section Unnatural

variable (isNegative : Bool) (significand : Nat) (exponent : Int)

theorem unnatural_realNumber : (realNumber isNegative significand exponent).Unnatural := by
  rw [realNumber]
  split
  · exact unnatural_real isNegative _
  · exact unnatural_failHere _

theorem unnatural_exponentPart : (exponentPart isNegative significand exponent).Unnatural := by
  have signed {condition : Prop} [Decidable condition] {reader : Reader Number}
      (unnatural : reader.Unnatural) :
      (if condition then drop >>= fun _ => reader else reader).Unnatural := by
    split
    · exact unnatural_bind fun _ => unnatural
    · exact unnatural
  rw [exponentPart]
  refine unnatural_bind fun _ => unnatural_bind fun sign => signed (unnatural_bind fun byte => ?_)
  split
  · exact unnatural_failHere _
  · split
    · refine unnatural_bind fun _ => unnatural_bind fun power => ?_
      split
      · exact unnatural_realNumber isNegative significand _
      · split
        · exact unnatural_failHere _
        · exact unnatural_bind fun _ => unnatural_real isNegative _
    · exact unnatural_failHere _

theorem unnatural_exponentTail : (exponentTail isNegative significand exponent).Unnatural := by
  rw [exponentTail]
  refine unnatural_bind fun byte => ?_
  split
  · exact unnatural_exponentPart isNegative significand exponent
  · exact unnatural_realNumber isNegative significand exponent

theorem unnatural_fractionPart : (fractionPart isNegative significand exponent).Unnatural := by
  rw [fractionPart]
  refine unnatural_bind fun _ => unnatural_bind fun digits => unnatural_bind fun byte => ?_
  cases digits with
  | nil =>
      cases byte with
      | none => exact unnatural_failAhead _
      | some _ => exact unnatural_failAhead _
  | cons _ _ => exact unnatural_exponentTail isNegative _ _

end Unnatural

/-- Behind its digits a number is no natural one if it is negative, has a fraction or an exponent
or is too large. -/
theorem unnatural_numberTail {isNegative : Bool} {digits : List Nat} {cursor : Cursor}
    (isOther : isNegative = true ∨
      (∃ mark ∈ ['.', 'e', 'E'], cursor.rest.head? = some (ascii mark)) ∨
      (absorb 0 digits).2.isEmpty = false) (value : Nat) (after : Cursor) :
    (numberTail isNegative digits).run cursor ≠ (.ok (.natural value), after) := by
  have peeked : peek.run cursor = (.ok cursor.rest.head?, cursor) := rfl
  rw [numberTail, run_bind_ok peeked]
  split
  · exact unnatural_fractionPart isNegative _ _ _ value after
  · rename_i isNoPoint
    split
    · exact unnatural_exponentPart isNegative _ _ _ value after
    · rename_i isNoMark
      rw [Bool.or_eq_true, decide_eq_true_eq, decide_eq_true_eq, not_or] at isNoMark
      split
      · rename_i isAll
        obtain rfl : isNegative = true := by
          rcases isOther with isNegative | ⟨mark, isMark, isHead⟩ | isLeft
          · exact isNegative
          · simp only [List.mem_cons, List.not_mem_nil, or_false] at isMark
            rcases isMark with rfl | rfl | rfl
            · exact absurd isHead isNoPoint
            · exact absurd isHead isNoMark.1
            · exact absurd isHead isNoMark.2
          · rw [isAll] at isLeft
            cases isLeft
        rw [integer, if_neg (by decide)]
        split
        · exact unnatural_realNumber true _ _ _ value after
        · exact fun same => by cases (Prod.mk.inj same).1
      · exact unnatural_realNumber isNegative _ _ _ value after

theorem unnatural_unsignedNumber : (unsignedNumber true).Unnatural := by
  have negative (digits : List Nat) : (numberTail true digits).Unnatural :=
    fun _ => unnatural_numberTail (Or.inl rfl)
  rw [unsignedNumber]
  refine unnatural_bind fun byte => ?_
  split
  · exact unnatural_failHere _
  · split
    · refine unnatural_bind fun _ => unnatural_bind fun following => ?_
      split
      · split
        · exact unnatural_failAhead _
        · exact negative []
      · exact negative []
    · split
      · exact unnatural_bind negative
      · exact unnatural_bind fun _ => unnatural_failHere _

/-- Bytes that start with a number that has a sign, a fraction or an exponent or is too large. -/
inductive OtherNumber : Bytes → Prop where
  | signed {sign : Char} (rest : Bytes) : sign ∈ ['+', '-'] → OtherNumber (ascii sign :: rest)
  | marked (whole : Nat) {mark : Char} (rest : Bytes) : mark ∈ ['.', 'e', 'E'] →
      OtherNumber (digitBytes whole ++ ascii mark :: rest)
  | tooLarge {whole : Nat} {behind : Bytes} : greatestNatural < whole → Ends behind →
      OtherNumber (digitBytes whole ++ behind)

theorem OtherNumber.unnatural {bytes : Bytes} (isOther : OtherNumber bytes)
    (isNumber : ∀ byte ∈ bytes.head?, startsNumber byte = true) (place : Place) (value : Nat)
    (after : Cursor) : number.run ⟨bytes, place⟩ ≠ (.ok (.natural value), after) := by
  cases isOther with
  | @signed sign rest isSign =>
      have areSigns : ∀ sign ∈ ['+', '-'], startsNumber (ascii sign) = true → sign = '-' :=
        List.all_iff_forall_prop.mp (by decide)
      obtain rfl := areSigns sign isSign (isNumber _ rfl)
      have leads : number.Leads (ascii '-' :: rest) (unsignedNumber true) rest :=
        (reads_peek _).bind (reads_drop (ascii '-') rest).leads
      obtain ⟨later, ran⟩ := leads place
      rw [ran]
      exact unnatural_unsignedNumber _ value after
  | @marked whole mark rest isMark =>
      have areMarks : ∀ mark ∈ ['.', 'e', 'E'], isDigit (ascii mark) = false :=
        List.all_iff_forall_prop.mp (by decide)
      have isEnd : ∀ byte ∈ (ascii mark :: rest).head?, isDigit byte = false :=
        fun byte isFirst => Option.some.inj isFirst ▸ areMarks mark isMark
      obtain ⟨digits, _, leads⟩ := leads_number isEnd whole
      obtain ⟨later, ran⟩ := leads place
      rw [ran]
      exact unnatural_numberTail (Or.inr (Or.inl ⟨mark, isMark, rfl⟩)) value after
  | @tooLarge whole behind isTooLarge ends =>
      obtain ⟨digits, areDigits, leads⟩ :=
        leads_number (fun byte isFirst => (not_digit_of_ends ends byte isFirst).1) whole
      obtain ⟨later, ran⟩ := leads place
      rw [ran]
      have isLeft := (absorb_digitBytes whole).2 isTooLarge
      exact unnatural_numberTail (Or.inr (Or.inr (areDigits ▸ isLeft))) value after

end Reader
end FixtureRunner.Json
