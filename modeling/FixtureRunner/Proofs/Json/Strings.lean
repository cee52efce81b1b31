/-
Reading strings.

However a text is spelled between its quotes, the reader gathers its encoding and so reads the text
itself.
-/

import FixtureRunner.Proofs.Json.Reading
import FixtureRunner.Proofs.Text.Decoding

namespace FixtureRunner.Json.Reader

/-! ### Escapes -/

theorem hexValue?_of_isHexDigit {value : Nat} {byte : UInt8} (isDigit : IsHexDigit value byte) :
    hexValue? byte = some value := by
  have areDigits : ∀ alphabet ∈ hexAlphabets, alphabet.length = 16 ∧ ∀ index : Fin 16,
      (alphabet[index.val]?).map (fun char => hexValue? (ascii char)) = some (some index.val) := by
    decide
  obtain ⟨alphabet, isAlphabet, isByte⟩ := isDigit
  obtain ⟨char, isChar, rfl⟩ := Option.map_eq_some_iff.mp isByte
  obtain ⟨isLength, areRead⟩ := areDigits alphabet isAlphabet
  obtain ⟨isBelow, _⟩ := List.getElem?_eq_some_iff.mp isChar
  have isRead := areRead ⟨value, isLength ▸ isBelow⟩
  rw [isChar] at isRead
  exact Option.some.inj isRead

theorem reads_hexUnit {unit : Nat} {four : Bytes} (spells : SpellsUnit unit four) (rest : Bytes) :
    hexUnit.Reads (four ++ rest) unit rest := by
  cases spells with
  | digits isFirst isSecond isThird isFourth =>
      rename_i first second third fourth firstByte secondByte thirdByte fourthByte
      have isValue : fourHexValue? [firstByte, secondByte, thirdByte, fourthByte] =
          some (((first * 16 + second) * 16 + third) * 16 + fourth) := by
        simp [fourHexValue?, hexValue?_of_isHexDigit isFirst, hexValue?_of_isHexDigit isSecond,
          hexValue?_of_isHexDigit isThird, hexValue?_of_isHexDigit isFourth]
      refine leads_get fun place => ?_
      refine Reads.bind (reads_over fun place => rfl) ?_
      simp only [List.cons_append, List.nil_append, List.take_succ_cons, List.take_zero, isValue]
      exact reads_pure _ rest

theorem reads_pairMark (mark : Char) (rest : Bytes) :
    (pairMark mark).Reads (ascii mark :: rest) () rest := by
  refine (reads_peek _).bind ((reads_drop _ rest).bind ?_)
  rw [if_pos rfl]
  exact reads_pure () rest

variable {char : Char}

theorem reads_numericEscape_unit {four : Bytes} (spells : SpellsUnit char.toNat four)
    (rest : Bytes) : numericEscape.Reads (four ++ rest) char rest := by
  have isScalar : char.toNat < 0xD800 ∨ (0xDFFF < char.toNat ∧ char.toNat < 0x110000) :=
    char.valid
  have isNoTrailing : isTrailingSurrogate char.toNat = false := by
    simp only [isTrailingSurrogate, Bool.and_eq_false_iff, decide_eq_false_iff_not]
    omega
  have isNoLeading : isLeadingSurrogate char.toNat = false := by
    simp only [isLeadingSurrogate, Bool.and_eq_false_iff, decide_eq_false_iff_not]
    omega
  refine (reads_hexUnit spells rest).bind ?_
  rw [isNoTrailing, isNoLeading, Char.ofNat_toNat]
  exact reads_pure char rest

theorem reads_numericEscape_pair {first second : Bytes} (isGreat : 0x10000 ≤ char.toNat)
    (isFirst : SpellsUnit (0xD800 + (char.toNat - 0x10000) / 0x400) first)
    (isSecond : SpellsUnit (0xDC00 + (char.toNat - 0x10000) % 0x400) second) (rest : Bytes) :
    numericEscape.Reads (first ++ ascii '\\' :: ascii 'u' :: (second ++ rest)) char rest := by
  have isScalar : char.toNat < 0xD800 ∨ (0xDFFF < char.toNat ∧ char.toNat < 0x110000) :=
    char.valid
  have isNoTrailing :
      isTrailingSurrogate (0xD800 + (char.toNat - 0x10000) / 0x400) = false := by
    simp only [isTrailingSurrogate, Bool.and_eq_false_iff, decide_eq_false_iff_not]
    omega
  have isLeading : isLeadingSurrogate (0xD800 + (char.toNat - 0x10000) / 0x400) = true := by
    simp only [isLeadingSurrogate, Bool.and_eq_true, decide_eq_true_eq]
    omega
  have isTrailing : isTrailingSurrogate (0xDC00 + (char.toNat - 0x10000) % 0x400) = true := by
    simp only [isTrailingSurrogate, Bool.and_eq_true, decide_eq_true_eq]
    omega
  have isChar : 0x10000 + (0xD800 + (char.toNat - 0x10000) / 0x400 - 0xD800) * 0x400 +
      (0xDC00 + (char.toNat - 0x10000) % 0x400 - 0xDC00) = char.toNat := by
    omega
  refine (reads_hexUnit isFirst _).bind ?_
  rw [isNoTrailing, isLeading]
  refine (reads_pairMark '\\' _).bind ((reads_pairMark 'u' _).bind ?_)
  refine (reads_hexUnit isSecond rest).bind ?_
  rw [isTrailing, if_pos rfl, isChar, Char.ofNat_toNat]
  exact reads_pure char rest

/-- What stands behind a backslash is read as the encoding of the character that it spells. -/
theorem reads_escape_numeric {piece rest : Bytes} (reads : numericEscape.Reads piece char rest) :
    escape.Reads (ascii 'u' :: piece) (Text.encodeChar char) rest := by
  refine (reads_take (ascii 'u') piece).bind ?_
  dsimp only
  rw [if_pos rfl]
  exact reads.bind (reads_pure _ rest)

theorem reads_escape_short {letter : Char} (isShort : (letter, char) ∈ shortEscapes)
    (rest : Bytes) : escape.Reads (ascii letter :: rest) (Text.encodeChar char) rest := by
  have areShort : ∀ pair ∈ shortEscapes, ascii pair.1 ≠ ascii 'u' ∧
      (shortEscape? (ascii pair.1)).map (fun meant => [meant]) = some (Text.encodeChar pair.2) := by
    decide
  obtain ⟨isOther, isMeant⟩ := areShort (letter, char) isShort
  obtain ⟨meant, isRead, isEncoded⟩ := Option.map_eq_some_iff.mp isMeant
  refine (reads_take (ascii letter) rest).bind ?_
  dsimp only at isOther isRead isEncoded ⊢
  rw [if_neg isOther, isRead, ← isEncoded]
  exact reads_pure [meant] rest

/-! ### Between the quotes -/

/-- Up to the closing quote the reader gathers these bytes from the spelling. -/
def Gathers (spelling meant : Bytes) : Prop :=
  ∀ room rest, spelling.length < room →
    (contents room).Reads (spelling ++ ascii '"' :: rest) meant (ascii '"' :: rest)

theorem gathers_nil : Gathers [] [] := by
  intro room rest isRoom
  obtain ⟨room, rfl⟩ : ∃ less, room = less + 1 := ⟨room - 1, by rw [List.length_nil] at isRoom; omega⟩
  refine (reads_peek _).bind ?_
  exact reads_pure [] _

def IsPlainByte (byte : UInt8) : Prop :=
  byte ≠ ascii '"' ∧ byte ≠ ascii '\\' ∧ ¬byte < 0x20

theorem isPlainByte_of_mem (isNoQuote : char ≠ '"') (isNoBackslash : char ≠ '\\')
    (isNoControl : 0x20 ≤ char.toNat) : ∀ byte ∈ Text.encodeChar char, IsPlainByte byte := by
  have isPlain {byte : UInt8} (isVisible : 0x20 ≤ byte.toNat) (isQuote : byte.toNat ≠ 0x22)
      (isBackslash : byte.toNat ≠ 0x5C) : IsPlainByte byte := by
    refine ⟨?_, ?_, ?_⟩
    · rintro rfl
      exact isQuote rfl
    · rintro rfl
      exact isBackslash rfl
    · exact fun isLess => absurd (UInt8.lt_iff_toNat_lt.mp isLess) (Nat.not_lt.mpr isVisible)
  have isCode {other : Char} (differs : char ≠ other) : char.toNat ≠ other.toNat :=
    fun same => differs (Char.toNat_inj.mp same)
  intro byte isThere
  by_cases isAscii : char.toNat < 0x80
  · rw [Text.encodeChar_ascii isAscii, List.mem_singleton] at isThere
    have isByte : byte.toNat = char.toNat := by
      rw [isThere, UInt8.toNat_ofNat']
      omega
    exact isPlain (isByte ▸ isNoControl) (isByte ▸ isCode isNoQuote) (isByte ▸ isCode isNoBackslash)
  · have isHigh := Text.encodeChar_ge (Nat.not_lt.mp isAscii) isThere
    exact isPlain (by omega) (by omega) (by omega)

section Gathers

variable {spelling meant : Bytes} (gathers : Gathers spelling meant)

include gathers

theorem Gathers.cons {byte : UInt8} (isPlain : IsPlainByte byte) :
    Gathers (byte :: spelling) (byte :: meant) := by
  intro room rest isRoom
  obtain ⟨isNoQuote, isNoBackslash, isNoControl⟩ := isPlain
  rw [List.length_cons] at isRoom
  obtain ⟨room, rfl⟩ : ∃ less, room = less + 1 := ⟨room - 1, by omega⟩
  refine (reads_peek _).bind ?_
  simp only [List.cons_append, List.head?_cons, if_neg isNoQuote, if_neg isNoBackslash,
    if_neg isNoControl]
  refine (reads_drop byte _).bind ?_
  exact (gathers room rest (by omega)).bind (reads_pure _ _)

theorem Gathers.append_plain {piece : Bytes} (arePlain : ∀ byte ∈ piece, IsPlainByte byte) :
    Gathers (piece ++ spelling) (piece ++ meant) := by
  induction piece with
  | nil => exact gathers
  | cons byte others ih =>
      obtain ⟨isPlain, areOthers⟩ := List.forall_mem_cons.mp arePlain
      exact (ih areOthers).cons isPlain

theorem Gathers.append_escape {piece character : Bytes}
    (reads : ∀ rest, escape.Reads (piece ++ rest) character rest) :
    Gathers (ascii '\\' :: piece ++ spelling) (character ++ meant) := by
  intro room rest isRoom
  rw [List.cons_append, List.length_cons, List.length_append] at isRoom
  obtain ⟨room, rfl⟩ : ∃ less, room = less + 1 := ⟨room - 1, by omega⟩
  rw [List.cons_append, List.cons_append, List.append_assoc]
  refine (reads_peek _).bind ?_
  simp only [List.head?_cons]
  refine (reads_drop (ascii '\\') _).bind ?_
  refine (reads _).bind ?_
  exact (gathers room rest (by omega)).bind (reads_pure _ _)

theorem Gathers.append_char {char : Char} {piece : Bytes} (spells : SpellsChar char piece) :
    Gathers (piece ++ spelling) (Text.encodeChar char ++ meant) := by
  cases spells with
  | plain isNoQuote isNoBackslash isNoControl =>
      exact gathers.append_plain (isPlainByte_of_mem isNoQuote isNoBackslash isNoControl)
  | short isShort => exact gathers.append_escape fun rest => reads_escape_short isShort rest
  | unit isUnit =>
      exact gathers.append_escape fun rest =>
        reads_escape_numeric (reads_numericEscape_unit isUnit rest)
  | @pair _ first second isGreat isFirst isSecond =>
      have isBytes (rest : Bytes) : (ascii 'u' :: first ++ ascii '\\' :: ascii 'u' :: second) ++ rest =
          ascii 'u' :: (first ++ ascii '\\' :: ascii 'u' :: (second ++ rest)) := by
        simp
      refine gathers.append_escape fun rest => ?_
      exact isBytes rest ▸
        reads_escape_numeric (reads_numericEscape_pair isGreat isFirst isSecond rest)

end Gathers

theorem gathers_of_spells {text : Text} {spelling : Bytes} (spells : Spells text spelling) :
    Gathers spelling (Text.encode text) := by
  induction spells with
  | nil => exact gathers_nil
  | cons isChar _ gathers => exact gathers.append_char isChar

theorem reads_string {text : Text} {spelling : Bytes} (spells : Spells text spelling)
    (rest : Bytes) : string.Reads (inQuotes spelling ++ rest) text rest := by
  have isBytes : inQuotes spelling ++ rest = ascii '"' :: (spelling ++ ascii '"' :: rest) := by
    simp [inQuotes]
  have isRoom : spelling.length < (spelling ++ ascii '"' :: rest).length + 1 := by
    rw [List.length_append]
    omega
  have isEncoding : Text.isWellFormed (Text.encode text) = true := by
    rw [Text.isWellFormed, Text.decode_encode, beq_self_eq_true]
  rw [isBytes]
  refine (reads_drop _ _).bind (leads_get fun place => ?_)
  refine (gathers_of_spells spells _ rest isRoom).bind ?_
  rw [isEncoding, if_pos rfl, Text.decode_encode]
  exact (reads_drop _ rest).bind (reads_pure text rest)

end FixtureRunner.Json.Reader
