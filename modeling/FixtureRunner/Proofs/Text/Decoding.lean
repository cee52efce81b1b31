/-
What decoding does at single characters.

The decoder is a machine that reads one byte at a time and holds at most one started
character.  Every character it completes lies in the range that the first bytes have left
open, so it is none of the first 128.  A byte below 0x80 ends whatever was started and is
written as itself.  Hence a character below 0x80 in a decoded text stands for its own byte,
and what is before and behind that byte is decoded apart.
-/

import FixtureRunner.Proofs.Text.Encoding

namespace FixtureRunner.Text

/-! ### Started characters -/

theorem toNat_char {code : Nat} (isValid : code.isValidChar) : (Char.ofNat code).toNat = code := by
  rw [Char.ofNat, dif_pos isValid]
  rfl

namespace Pending

/-- How many characters are still possible once a byte is accepted that `further` bytes
follow. -/
def choices : Nat → Nat
  | 0 => 1
  | further + 1 => 0x40 * choices further

/-- The least code that the started character can have. -/
def least (pending : Pending) : Nat :=
  (pending.value * 0x40 + (pending.low - 0x80)) * choices pending.further

def bound (pending : Pending) : Nat :=
  (pending.value * 0x40 + (pending.high - 0x80) + 1) * choices pending.further

/-- Only bytes from 0x80 on continue the character, and whatever it becomes is a character,
none of the first 128. -/
structure IsProper (pending : Pending) : Prop where
  isTail : 0x80 ≤ pending.low
  isLong : 0x80 ≤ pending.least
  isScalar : pending.bound ≤ 0xD800 ∨ (0xE000 ≤ pending.least ∧ pending.bound ≤ 0x110000)

end Pending

/-- The character that a byte starts, if it starts one, can be completed to a character of more
than one byte. -/
def Lead.IsLong : Lead → Prop
  | .single _ => False
  | .opening pending => pending.IsProper
  | .stray => True

variable {byte : UInt8} {char : Char} {state : Option Pending}

theorem isLong_lead (isHigh : 0x80 ≤ byte.toNat) : (lead byte).IsLong := by
  simp only [lead]
  rw [if_neg (Nat.not_lt.mpr isHigh)]
  repeat' refine iteInduction (motive := Lead.IsLong) (fun _ => ?_) (fun _ => ?_)
  any_goals exact trivial
  all_goals
    refine ⟨?_, ?_, ?_⟩ <;> simp only [Pending.least, Pending.bound, Pending.choices] <;> omega

namespace Pending

variable {pending : Pending} {byte : UInt8}

theorem IsProper.not_admits (isProper : pending.IsProper) (isAscii : byte.toNat < 0x80) :
    pending.admits byte = false := by
  have isTail := isProper.isTail
  simp only [admits, Bool.and_eq_false_iff, decide_eq_false_iff_not]
  left
  omega

/-- The code read so far narrows the range of the started character. -/
theorem value_mem_range (isProper : pending.IsProper) (isAdmitted : pending.admits byte = true) :
    pending.least ≤
        (pending.value * 0x40 + (byte.toNat - 0x80)) * choices pending.further ∧
      (pending.value * 0x40 + (byte.toNat - 0x80) + 1) * choices pending.further ≤
        pending.bound := by
  have isTail := isProper.isTail
  simp only [admits, Bool.and_eq_true, decide_eq_true_eq] at isAdmitted
  exact ⟨Nat.mul_le_mul_right _ (by omega), Nat.mul_le_mul_right _ (by omega)⟩

theorem IsProper.accept_inl {char : Char} (isProper : pending.IsProper)
    (isAdmitted : pending.admits byte = true) (isComplete : pending.accept byte = .inl char) :
    0x80 ≤ char.toNat := by
  obtain ⟨isAbove, isBelow⟩ := value_mem_range isProper isAdmitted
  have isLong := isProper.isLong
  have isScalar := isProper.isScalar
  cases rest : pending.further with
  | succ further => simp [accept, rest] at isComplete
  | zero =>
      simp only [accept, rest, Sum.inl.injEq] at isComplete
      simp only [rest, choices, Nat.mul_one] at isAbove isBelow
      have isValid : (pending.value * 0x40 + (byte.toNat - 0x80)).isValidChar := by
        unfold Nat.isValidChar
        omega
      rw [← isComplete, toNat_char isValid]
      omega

theorem IsProper.accept_inr {continued : Pending} (isProper : pending.IsProper)
    (isAdmitted : pending.admits byte = true)
    (isContinued : pending.accept byte = .inr continued) : continued.IsProper := by
  obtain ⟨isAbove, isBelow⟩ := value_mem_range isProper isAdmitted
  have isLong := isProper.isLong
  have isScalar := isProper.isScalar
  cases rest : pending.further with
  | zero => simp [accept, rest] at isContinued
  | succ further =>
      simp only [accept, rest, Sum.inr.injEq] at isContinued
      rw [rest] at isAbove isBelow
      -- The next byte may be any of 0x40, so the range stays the one the last byte has left.
      have sameLeast : continued.least =
          (pending.value * 0x40 + (byte.toNat - 0x80)) * choices (further + 1) := by
        rw [← isContinued, least, choices, Nat.sub_self, Nat.add_zero, Nat.mul_assoc]
      have sameBound : continued.bound =
          (pending.value * 0x40 + (byte.toNat - 0x80) + 1) * choices (further + 1) := by
        have isWhole (value : Nat) : value * 0x40 + (0xBF - 0x80) + 1 = (value + 1) * 0x40 := by
          omega
        rw [← isContinued]
        simp only [bound, choices]
        rw [isWhole, Nat.mul_assoc]
      have sameLow : continued.low = 0x80 := by rw [← isContinued]
      exact ⟨Nat.le_of_eq sameLow.symm, by omega, by omega⟩

end Pending

/-! ### One byte -/

def begin (byte : UInt8) : Text × Option Pending :=
  match lead byte with
  | .single char => ([char], none)
  | .opening pending => ([], some pending)
  | .stray => ([replacement], none)

/-- What a byte writes, and the character that is started when it is read. -/
def step : Option Pending → UInt8 → Text × Option Pending
  | none, byte => begin byte
  | some pending, byte =>
      if pending.admits byte then
        match pending.accept byte with
        | .inl char => ([char], none)
        | .inr continued => ([], some continued)
      else
        (replacement :: (begin byte).1, (begin byte).2)

def unfinished : Option Pending → Text
  | none => []
  | some _ => [replacement]

theorem decodeFrom_nil (state : Option Pending) : decodeFrom state [] = unfinished state := by
  cases state <;> rfl

theorem decodeFrom_cons (state : Option Pending) (byte : UInt8) (rest : Bytes) :
    decodeFrom state (byte :: rest) =
      (step state byte).1 ++ decodeFrom (step state byte).2 rest := by
  cases state with
  | none =>
      rw [decodeFrom, step, begin]
      cases lead byte <;> rfl
  | some pending =>
      rw [decodeFrom, step]
      split
      · cases pending.accept byte <;> rfl
      · rw [begin]
        cases lead byte <;> rfl

/-- A started character can still be completed. -/
def IsSound (state : Option Pending) : Prop :=
  ∀ pending, state = some pending → pending.IsProper

theorem isSound_none : IsSound none := by
  intro pending isStarted
  cases isStarted

theorem replacement_ge : 0x80 ≤ replacement.toNat := by decide

theorem unfinished_ge (state : Option Pending) (isWritten : char ∈ unfinished state) :
    0x80 ≤ char.toNat := by
  cases state with
  | none => cases isWritten
  | some pending =>
      obtain rfl := List.mem_singleton.mp isWritten
      exact replacement_ge

theorem begin_ascii (isAscii : byte.toNat < 0x80) :
    begin byte = ([Char.ofNat byte.toNat], none) := by
  have isSingle : lead byte = .single (Char.ofNat byte.toNat) := by
    simp only [lead]
    rw [if_pos isAscii]
  rw [begin, isSingle]

theorem step_ascii (isSound : IsSound state) (isAscii : byte.toNat < 0x80) :
    step state byte = (unfinished state ++ [Char.ofNat byte.toNat], none) := by
  cases state with
  | none => exact begin_ascii isAscii
  | some pending =>
      rw [step, (isSound pending rfl).not_admits isAscii, begin_ascii isAscii]
      rfl

theorem begin_ge (isHigh : 0x80 ≤ byte.toNat) (isWritten : char ∈ (begin byte).1) :
    0x80 ≤ char.toNat := by
  have isLong := isLong_lead isHigh
  rw [begin] at isWritten
  cases isLead : lead byte with
  | single single =>
      rw [isLead] at isLong
      exact isLong.elim
  | opening pending =>
      rw [isLead] at isWritten
      cases isWritten
  | stray =>
      rw [isLead] at isWritten
      obtain rfl := List.mem_singleton.mp isWritten
      exact replacement_ge

theorem step_ge (isSound : IsSound state) (isHigh : 0x80 ≤ byte.toNat)
    (isWritten : char ∈ (step state byte).1) : 0x80 ≤ char.toNat := by
  cases state with
  | none => exact begin_ge isHigh isWritten
  | some pending =>
      rw [step] at isWritten
      split at isWritten
      · rename_i isAdmitted
        cases isAccepted : pending.accept byte with
        | inl complete =>
            rw [isAccepted] at isWritten
            obtain rfl := List.mem_singleton.mp isWritten
            exact (isSound pending rfl).accept_inl isAdmitted isAccepted
        | inr continued =>
            rw [isAccepted] at isWritten
            cases isWritten
      · rcases List.mem_cons.mp isWritten with rfl | isLater
        · exact replacement_ge
        · exact begin_ge isHigh isLater

theorem begin_sound (byte : UInt8) : IsSound (begin byte).2 := by
  by_cases isAscii : byte.toNat < 0x80
  · rw [begin_ascii isAscii]
    exact isSound_none
  · have isLong := isLong_lead (Nat.not_lt.mp isAscii)
    rw [begin]
    cases isLead : lead byte with
    | single char => exact isSound_none
    | stray => exact isSound_none
    | opening opened =>
        intro pending isStarted
        obtain rfl := Option.some.inj isStarted
        rw [isLead] at isLong
        exact isLong

theorem step_sound (isSound : IsSound state) (byte : UInt8) : IsSound (step state byte).2 := by
  cases state with
  | none => exact begin_sound byte
  | some pending =>
      rw [step]
      split
      · rename_i isAdmitted
        cases isAccepted : pending.accept byte with
        | inl complete => exact isSound_none
        | inr continued =>
            intro started isStarted
            obtain rfl := Option.some.inj isStarted
            exact (isSound pending rfl).accept_inr isAdmitted isAccepted
      · exact begin_sound byte

/-! ### Whole texts -/

/-- What is not in the front of a list stands behind it. -/
theorem behind_of_notMem {α : Type} {front rest before after : List α} {mark : α}
    (isOther : mark ∉ front) (same : front ++ rest = before ++ mark :: after) :
    ∃ between, before = front ++ between ∧ rest = between ++ mark :: after := by
  rcases List.append_eq_append_iff.mp same with ⟨between, isBefore, isRest⟩ | ⟨more, isFront, isRest⟩
  · exact ⟨between, isBefore, isRest⟩
  · cases more with
    | nil => exact ⟨[], by simpa using isFront.symm, isRest.symm⟩
    | cons first others =>
        obtain ⟨rfl, _⟩ := List.cons.inj isRest
        exact absurd (by rw [isFront]; simp) isOther

theorem decodeFrom_append_ascii (isSound : IsSound state) (front back : Bytes)
    (isAscii : byte.toNat < 0x80) :
    decodeFrom state (front ++ byte :: back) =
      decodeFrom state front ++ Char.ofNat byte.toNat :: decode back := by
  induction front generalizing state with
  | nil =>
      rw [List.nil_append, decodeFrom_cons, step_ascii isSound isAscii, decodeFrom_nil,
        List.append_assoc]
      rfl
  | cons first others ih =>
      rw [List.cons_append, decodeFrom_cons, decodeFrom_cons, ih (step_sound isSound first),
        List.append_assoc]

/-- A character below 0x80 is written by its own byte, after all that is written for the bytes
before it. -/
theorem origin_of_decodeFrom (isSound : IsSound state) {bytes : Bytes} {before after : Text}
    (isAscii : char.toNat < 0x80) (isDecoded : decodeFrom state bytes = before ++ char :: after) :
    ∃ front back, bytes = front ++ UInt8.ofNat char.toNat :: back ∧
      decodeFrom state front = before ∧ decode back = after := by
  have isOther : char ∉ unfinished state := by
    intro isWritten
    have isLong := unfinished_ge state isWritten
    omega
  induction bytes generalizing state before with
  | nil =>
      rw [decodeFrom_nil] at isDecoded
      exact absurd (by rw [isDecoded]; simp) isOther
  | cons byte rest ih =>
      have onward {next : Option Pending} {between : Text} (isNext : IsSound next)
          (isLater : decodeFrom next rest = between ++ char :: after) :=
        ih isNext isLater fun isWritten =>
          absurd (unfinished_ge next isWritten) (Nat.not_le.mpr isAscii)
      by_cases isShort : byte.toNat < 0x80
      · have isCut := decodeFrom_append_ascii isSound [] rest isShort
        rw [List.nil_append, decodeFrom_nil] at isCut
        rw [isCut] at isDecoded
        obtain ⟨between, rfl, isLater⟩ := behind_of_notMem isOther isDecoded
        cases between with
        | nil =>
            obtain ⟨isChar, isAfter⟩ := List.cons.inj isLater
            refine ⟨[], rest, ?_, ?_, isAfter⟩
            · rw [← isChar, toNat_char (Or.inl (by omega)), UInt8.ofNat_toNat]
              rfl
            · rw [decodeFrom_nil, List.append_nil]
        | cons first others =>
            obtain ⟨isFirst, isRest⟩ := List.cons.inj isLater
            obtain ⟨front, back, rfl, isFront, isBack⟩ := onward isSound_none isRest
            refine ⟨byte :: front, back, rfl, ?_, isBack⟩
            rw [← isFirst, ← isFront, ← decodeFrom_nil]
            exact decodeFrom_append_ascii isSound [] front isShort
      · have isNone : char ∉ (step state byte).1 := by
          intro isWritten
          have isLong := step_ge isSound (Nat.not_lt.mp isShort) isWritten
          omega
        rw [decodeFrom_cons] at isDecoded
        obtain ⟨between, rfl, isLater⟩ := behind_of_notMem isNone isDecoded
        obtain ⟨front, back, rfl, isFront, isBack⟩ := onward (step_sound isSound byte) isLater
        refine ⟨byte :: front, back, rfl, ?_, isBack⟩
        rw [decodeFrom_cons, isFront]

theorem step_ne_idle (state : Option Pending) (byte : UInt8) : step state byte ≠ ([], none) := by
  cases state with
  | none =>
      rw [step, begin]
      cases lead byte <;> simp
  | some pending =>
      rw [step]
      split
      · cases pending.accept byte <;> simp
      · simp

theorem decodeFrom_eq_nil_iff (state : Option Pending) (bytes : Bytes) :
    decodeFrom state bytes = [] ↔ state = none ∧ bytes = [] := by
  induction bytes generalizing state with
  | nil => cases state <;> simp [decodeFrom_nil, unfinished]
  | cons byte rest ih =>
      rw [decodeFrom_cons, List.append_eq_nil_iff, ih]
      constructor
      · rintro ⟨isSilent, isNone, _⟩
        exact absurd (Prod.ext isSilent isNone) (step_ne_idle state byte)
      · rintro ⟨_, isEmpty⟩
        cases isEmpty

/-! ### Encoded characters -/

theorem encodeChar_ascii (isAscii : char.toNat < 0x80) :
    encodeChar char = [UInt8.ofNat char.toNat] := by
  simp only [encodeChar]
  rw [if_pos isAscii]

theorem encodeChar_ge (isLong : 0x80 ≤ char.toNat) (isWritten : byte ∈ encodeChar char) :
    0x80 ≤ byte.toNat := by
  have isScalar : char.toNat < 0xD800 ∨ (0xDFFF < char.toNat ∧ char.toNat < 0x110000) :=
    char.valid
  simp only [encodeChar] at isWritten
  rw [if_neg (Nat.not_lt.mpr isLong)] at isWritten
  repeat' split at isWritten
  all_goals
    simp only [List.mem_cons, List.not_mem_nil, or_false] at isWritten
    rcases isWritten with rfl | rfl | rfl | rfl <;> rw [UInt8.toNat_ofNat'] <;> omega

/-- A byte below 0x80 is the encoding of its own character, behind all that encodes the
characters before it. -/
theorem origin_of_encode {text : Text} {before after : Bytes} (isAscii : char.toNat < 0x80)
    (isEncoded : encode text = before ++ UInt8.ofNat char.toNat :: after) :
    ∃ front back, text = front ++ char :: back ∧ encode front = before ∧ encode back = after := by
  have byteCode : (UInt8.ofNat char.toNat).toNat = char.toNat := by
    rw [UInt8.toNat_ofNat']
    omega
  induction text generalizing before with
  | nil => exact absurd isEncoded (by simp [encode])
  | cons first rest ih =>
      have unfolded : encode (first :: rest) = encodeChar first ++ encode rest := rfl
      rw [unfolded] at isEncoded
      by_cases isChar : first = char
      · subst isChar
        rw [encodeChar_ascii isAscii] at isEncoded
        cases before with
        | nil => exact ⟨[], rest, rfl, rfl, (List.cons.inj isEncoded).2⟩
        | cons byte others =>
            obtain ⟨isByte, isRest⟩ := List.cons.inj isEncoded
            obtain ⟨front, back, rfl, isFront, isBack⟩ := ih isRest
            refine ⟨first :: front, back, rfl, ?_, isBack⟩
            rw [← isByte, ← isFront, encode, List.flatMap_cons, encodeChar_ascii isAscii]
            rfl
      · have isOther : UInt8.ofNat char.toNat ∉ encodeChar first := by
          intro isWritten
          by_cases isShort : first.toNat < 0x80
          · rw [encodeChar_ascii isShort, List.mem_singleton] at isWritten
            have sameCode := congrArg UInt8.toNat isWritten
            rw [byteCode, UInt8.toNat_ofNat', Nat.mod_eq_of_lt (by omega)] at sameCode
            exact isChar (Char.toNat_inj.mp sameCode.symm)
          · have isLong := encodeChar_ge (Nat.not_lt.mp isShort) isWritten
            omega
        obtain ⟨between, rfl, isLater⟩ := behind_of_notMem isOther isEncoded
        obtain ⟨front, back, rfl, isFront, isBack⟩ := ih isLater
        exact ⟨first :: front, back, rfl, by rw [← isFront]; rfl, isBack⟩

theorem encode_eq_nil_iff (text : Text) : encode text = [] ↔ text = [] := by
  constructor
  · intro isEmpty
    rw [← decode_encode text, isEmpty]
    rfl
  · rintro rfl
    rfl

end FixtureRunner.Text
