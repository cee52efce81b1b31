/-
Reading back what was written.

A reader for values of any kind is put together from the readers for each kind.  It takes every
spelling of a value, so it also reads the text that is written for it.
-/

import FixtureRunner.Proofs.Json.Values

namespace FixtureRunner.Json

open Text (encode decode)

/-! ### Reading any document -/

namespace Reader

/-- The members of an object in their order; `room` bounds their number. -/
def members {α : Type} (reader : Reader α) : Nat → Bool → Reader (List (String × α))
  | 0, _ => failAhead .endInObject
  | room + 1, isFirst => do
      match ← nextKey isFirst with
      | none => return []
      | some name => do
          colon
          let value ← reader
          return (String.ofList name, value) :: (← members reader room false)

def value : Nat → Reader Json
  | 0 => failAhead .valueExpected
  | depth + 1 => do
      match ← peekToken with
      | none => failAhead .endInValue
      | some byte =>
          if byte = ascii 'n' then do
            drop
            finishWord ['u', 'l', 'l']
            return .null
          else if byte = ascii 't' then do
            drop
            finishWord ['r', 'u', 'e']
            return .bool true
          else if byte = ascii 'f' then do
            drop
            finishWord ['a', 'l', 's', 'e']
            return .bool false
          else if byte = ascii '"' then return .string (String.ofList (← string))
          else if byte = ascii '[' then return .array (← list (value depth))
          else if byte = ascii '\x7b' then do
            drop
            return .object
              (← closing (members (value depth) ((← get).rest.length + 1) true) closeObject)
          else return .number (← natural "a number")

def wholeValue : Reader Json := do
  let json ← value 128
  finish
  return json

end Reader

def parse (bytes : Bytes) : Except Fault Json :=
  Reader.wholeValue.read bytes

/-- The numbers of the value fit into 64 bits, and it is nested at most so deep. -/
inductive Fits : Nat → Json → Prop where
  | null {depth : Nat} : Fits (depth + 1) .null
  | bool {depth : Nat} (value : Bool) : Fits (depth + 1) (.bool value)
  | number {depth value : Nat} : value ≤ greatestNatural → Fits (depth + 1) (.number value)
  | string {depth : Nat} (text : String) : Fits (depth + 1) (.string text)
  | array {depth : Nat} {items : List Json} : (∀ item ∈ items, Fits depth item) →
      Fits (depth + 1) (.array items)
  | object {depth : Nat} {members : List (String × Json)} :
      (∀ member ∈ members, Fits depth member.2) → Fits (depth + 1) (.object members)

namespace Reader

/-- The loop over the members of an object, by induction on the members that are left. -/
theorem reads_members {reader : Reader Json} (fields : List (Json × Field))
    (takes : ∀ field ∈ fields, reader.Takes field.2.value.spelling field.1)
    {room : Nat} (fits : fields.length < room) (isFirst : Bool) (blank : Blank) (tail : Bytes) :
    (members reader room isFirst).Reads
      (blank.bytes ++ (punctuated isFirst (fields.map (·.2.bytes)) ++ ascii '\x7d' :: tail))
      (fields.map fun field => (field.2.name, field.1)) (ascii '\x7d' :: tail) := by
  induction fields generalizing room isFirst blank with
  | nil =>
      obtain ⟨left, rfl⟩ := Nat.exists_eq_succ_of_ne_zero (Nat.ne_of_gt fits)
      exact (reads_nextKey_none isFirst blank tail).bind (reads_pure [] _)
  | cons field others ih =>
      obtain ⟨left, rfl⟩ := Nat.exists_eq_succ_of_ne_zero (Nat.ne_of_gt (Nat.zero_lt_of_lt fits))
      obtain ⟨takesValue, takesOthers⟩ := List.forall_mem_cons.mp takes
      have ends := ends_punctuated (others.map (·.2.bytes)) (ends_close tail).2
      rw [List.map_cons, List.map_cons, punctuated, List.append_assoc, List.append_assoc,
        Field.bytes_append]
      refine (reads_nextKey field.2 isFirst blank _).bind ((reads_colon field.2.between _).bind ?_)
      refine (takesValue.piece ends).bind ?_
      rw [String.ofList_toList]
      exact (ih takesOthers (Nat.lt_of_succ_lt_succ fits) false _).bind (reads_pure _ _)

/-- Every spelling of a value is taken as the value. -/
theorem takes_value {json : Json} {spelling : Bytes} (renders : Renders json spelling) {depth : Nat}
    (fits : Fits depth json) : (value depth).Takes spelling json := by
  induction renders generalizing depth with
  | null =>
      cases fits with
      | @null depth =>
          refine ⟨⟨_, _, rfl, by decide⟩, fun blank behind _ => ?_⟩
          refine (reads_token blank (by decide) _).bind ((reads_drop (ascii 'n') _).bind ?_)
          exact (reads_finishWord ['u', 'l', 'l'] behind).bind (reads_pure _ _)
  | bool value =>
      cases fits
      cases value with
      | true =>
          refine ⟨⟨_, _, rfl, by decide⟩, fun blank behind _ => ?_⟩
          refine (reads_token blank (by decide) _).bind ((reads_drop (ascii 't') _).bind ?_)
          exact (reads_finishWord ['r', 'u', 'e'] behind).bind (reads_pure _ _)
      | false =>
          refine ⟨⟨_, _, rfl, by decide⟩, fun blank behind _ => ?_⟩
          refine (reads_token blank (by decide) _).bind ((reads_drop (ascii 'f') _).bind ?_)
          exact (reads_finishWord ['a', 'l', 's', 'e'] behind).bind (reads_pure _ _)
  | number value =>
      cases fits with
      | number fits =>
          have takes := takes_natural fits "a number"
          refine ⟨takes.starts, fun blank behind ends => ?_⟩
          obtain ⟨byte, rest, areBytes, _, _, isNoOther⟩ := starts_digitBytes value
          have isFirst : (digitBytes value).head? = some byte := by rw [areBytes]; rfl
          refine (reads_first takes.starts blank behind).bind ?_
          -- A digit begins no other kind of value.
          simp only [isFirst, isNoOther 'n' (by decide), isNoOther 't' (by decide),
            isNoOther 'f' (by decide), isNoOther '"' (by decide), isNoOther '[' (by decide),
            isNoOther '\x7b' (by decide), if_false]
          exact (takes.reads Blank.none ends).bind (reads_pure _ _)
  | @string text spelling spells =>
      cases fits
      refine ⟨⟨_, _, rfl, by decide⟩, fun blank behind _ => ?_⟩
      refine (reads_token blank (by decide) _).bind ((reads_string spells behind).bind ?_)
      rw [String.ofList_toList]
      exact reads_pure _ _
  | array inside items _ ih =>
      cases fits with
      | array fits =>
          have takes := takes_list items
            (fun item isThere => ih item isThere (fits _ (List.mem_map_of_mem isThere))) inside
          refine ⟨⟨_, _, rfl, by decide⟩, fun blank behind ends => ?_⟩
          refine (reads_token blank (by decide) _).bind ?_
          exact (takes.reads Blank.none ends).bind (reads_pure _ _)
  | object inside fields _ ih =>
      cases fits with
      | object fits =>
          have takes : ∀ field ∈ fields, (Reader.value _).Takes field.2.value.spelling field.1 :=
            fun field isThere => ih field isThere (fits _ (List.mem_map_of_mem isThere))
          refine ⟨⟨_, _, rfl, by decide⟩, fun blank behind ends => ?_⟩
          simp only [bracketed, List.cons_append, List.append_assoc, List.nil_append]
          refine (reads_token blank (by decide) _).bind ((reads_drop (ascii '\x7b') _).bind ?_)
          refine leads_get fun place => ?_
          refine Reads.bind ((reads_members fields takes ?_ true inside behind).closing
            (reads_closeObject behind)) (reads_pure _ _)
          -- Each member has a byte at least, and the bytes bound the loop.
          have isLong := length_le_punctuated true (fields.map (·.2.bytes))
          simp only [List.length_map, List.length_append, List.length_cons] at isLong ⊢
          omega

end Reader

/-- Every spelling of a document is read, with blanks around it. -/
theorem parse_renders {json : Json} {spelling : Bytes} (renders : Renders json spelling)
    (fits : Fits 128 json) (front behind : Blank) :
    parse (front.bytes ++ (spelling ++ behind.bytes)) = .ok json := by
  have ends : Reader.Ends behind.bytes := by
    have isNothing : Reader.Ends [] := fun _ isFirst => by cases isFirst
    have ends := Reader.ends_blank behind isNothing
    rwa [List.append_nil] at ends
  have readsWhole : Reader.wholeValue.Reads (front.bytes ++ (spelling ++ behind.bytes)) json [] :=
    ((Reader.takes_value renders fits).reads front ends).bind
      ((Reader.reads_finish behind).bind (Reader.reads_pure _ []))
  exact readsWhole.read_eq

/-! ### Written characters -/

theorem encode_of_ascii {text : Text} (areAscii : ∀ char ∈ text, char.toNat < 0x80) :
    encode text = text.map ascii := by
  induction text with
  | nil => rfl
  | cons char rest ih =>
      have isRest := ih fun other isThere => areAscii other (List.mem_cons_of_mem _ isThere)
      rw [encode] at isRest ⊢
      rw [List.flatMap_cons, Text.encodeChar_ascii (areAscii char List.mem_cons_self), isRest]
      rfl

variable {value : Nat}

theorem isHexDigit_hexDigit (isSmall : value < 16) : IsHexDigit value (ascii (hexDigit value)) := by
  have areDigits : ∀ value < 16,
      ("0123456789abcdef".toList[value]?).map ascii = some (ascii (hexDigit value)) := by decide
  exact ⟨_, List.mem_cons_self, areDigits value isSmall⟩

theorem hexDigit_ascii (isSmall : value < 16) : (hexDigit value).toNat < 0x80 := by
  have areAscii : ∀ value < 16, (hexDigit value).toNat < 0x80 := by decide
  exact areAscii value isSmall

def lettered : List Char := ['"', '\\', '\x08', '\t', '\n', '\x0C', '\r']

/-- A character is written with a letter, with its number, or as itself. -/
theorem escapeChar_cases (char : Char) :
    (∃ letter, (letter, char) ∈ shortEscapes ∧ escapeChar char = ['\\', letter]) ∨
      (char.toNat < 0x20 ∧ escapeChar char =
        ['\\', 'u', '0', '0', hexDigit (char.toNat / 16), hexDigit (char.toNat % 16)]) ∨
      (char ∉ lettered ∧ 0x20 ≤ char.toNat ∧ escapeChar char = [char]) := by
  by_cases isLettered : char ∈ lettered
  · have haveLetters : ∀ char ∈ lettered, ∃ pair ∈ shortEscapes,
        pair.2 = char ∧ escapeChar char = ['\\', pair.1] := List.all_iff_forall_prop.mp (by decide)
    obtain ⟨⟨letter, _⟩, isEscape, rfl, isWritten⟩ := haveLetters char isLettered
    exact Or.inl ⟨letter, isEscape, isWritten⟩
  · have isOther := isLettered
    simp only [lettered, List.mem_cons, List.not_mem_nil, or_false, not_or] at isOther
    by_cases isControl : char.toNat < 0x20
    · exact Or.inr (Or.inl ⟨isControl, by simp [escapeChar, isOther, isControl]⟩)
    · refine Or.inr (Or.inr ⟨isLettered, Nat.le_of_not_lt isControl, ?_⟩)
      simp [escapeChar, isOther, isControl]

theorem spellsChar_escapeChar (char : Char) : SpellsChar char (encode (escapeChar char)) := by
  rcases escapeChar_cases char with
    ⟨letter, isEscape, isWritten⟩ | ⟨isControl, isWritten⟩ | ⟨isPlain, isLarge, isWritten⟩
  · have areLetters : ∀ pair ∈ shortEscapes, pair.1.toNat < 0x80 := by decide
    have areAscii : ∀ written ∈ ['\\', letter], written.toNat < 0x80 := by
      simp only [List.mem_cons, List.not_mem_nil, or_false, forall_eq_or_imp, forall_eq]
      exact ⟨by decide, areLetters _ isEscape⟩
    rw [isWritten, encode_of_ascii areAscii]
    exact SpellsChar.short isEscape
  · have isHigh : char.toNat / 16 < 16 := by omega
    have isLow : char.toNat % 16 < 16 := by omega
    have areAscii : ∀ written ∈
        ['\\', 'u', '0', '0', hexDigit (char.toNat / 16), hexDigit (char.toNat % 16)],
        written.toNat < 0x80 := by
      simp only [List.mem_cons, List.not_mem_nil, or_false, forall_eq_or_imp, forall_eq]
      exact ⟨by decide, by decide, by decide, by decide, hexDigit_ascii isHigh,
        hexDigit_ascii isLow⟩
    have unit := SpellsUnit.digits (isHexDigit_hexDigit (Nat.zero_lt_succ 15))
      (isHexDigit_hexDigit (Nat.zero_lt_succ 15)) (isHexDigit_hexDigit isHigh)
      (isHexDigit_hexDigit isLow)
    have isValue : ((0 * 16 + 0) * 16 + char.toNat / 16) * 16 + char.toNat % 16 = char.toNat := by
      omega
    rw [isValue] at unit
    rw [isWritten, encode_of_ascii areAscii]
    exact SpellsChar.unit unit
  · rw [isWritten, encode, List.flatMap_singleton]
    refine SpellsChar.plain ?_ ?_ isLarge
    · rintro rfl
      exact isPlain (by decide)
    · rintro rfl
      exact isPlain (by decide)

theorem spells_escaped (text : Text) :
    Spells text (encode (text.flatMap escapeChar)) := by
  induction text with
  | nil => exact Spells.nil
  | cons char rest ih =>
      have spells := Spells.cons (spellsChar_escapeChar char) ih
      simp only [encode, List.flatMap_cons, List.flatMap_append] at spells ⊢
      exact spells

theorem encode_quoted (text : Text) :
    encode (quoted text) = inQuotes (encode (text.flatMap escapeChar)) := by
  simp only [quoted, inQuotes, encode, List.cons_append, List.flatMap_cons,
    List.flatMap_append, List.flatMap_nil, List.append_nil]
  rfl

/-! ### Written values -/

/-- What holds of a value whenever it holds of the values in it holds of all values. -/
theorem nested_induction {motive : Json → Prop} (null : motive .null)
    (bool : ∀ value, motive (.bool value)) (number : ∀ value, motive (.number value))
    (string : ∀ text, motive (.string text))
    (array : ∀ items, (∀ item ∈ items, motive item) → motive (.array items))
    (object : ∀ members, (∀ member ∈ members, motive member.2) → motive (.object members))
    (json : Json) : motive json :=
  @Json.rec motive (fun items => ∀ item ∈ items, motive item)
    (fun members => ∀ member ∈ members, motive member.2) (fun member => motive member.2)
    null bool number string array object (List.forall_mem_nil _)
    (fun _ _ isFirst areOthers => List.forall_mem_cons.mpr ⟨isFirst, areOthers⟩)
    (List.forall_mem_nil _)
    (fun _ _ isFirst areOthers => List.forall_mem_cons.mpr ⟨isFirst, areOthers⟩)
    (fun _ _ isValue => isValue) json

theorem encode_append (first second : Text) :
    encode (first ++ second) = encode first ++ encode second := by
  rw [encode, List.flatMap_append]
  rfl

theorem encode_cons_ascii {char : Char} (isAscii : char.toNat < 0x80) (rest : Text) :
    encode (char :: rest) = ascii char :: encode rest := by
  rw [encode, List.flatMap_cons, Text.encodeChar_ascii isAscii]
  rfl

def piece (json : Json) : Piece := { spelling := encode json.render }

def field (member : String × Json) : Field :=
  { name := member.1
    nameSpelling := encode (member.1.toList.flatMap escapeChar)
    isName := spells_escaped _
    value := piece member.2 }

theorem piece_bytes (json : Json) : (piece json).bytes = encode json.render := by
  simp [piece, Piece.bytes, Blank.none]

theorem field_bytes (member : String × Json) :
    (field member).bytes = encode (quoted member.1.toList ++ ':' :: member.2.render) := by
  rw [encode_append, encode_cons_ascii (by decide), encode_quoted]
  simp [field, Field.bytes, Field.front, piece_bytes, Blank.none]

theorem encode_renderItems (items : List Json) :
    encode (renderItems items) = punctuated true (items.map fun json => (piece json).bytes) := by
  induction items with
  | nil => rfl
  | cons json rest ih =>
      cases rest with
      | nil => simp [renderItems, punctuated, piece_bytes]
      | cons next others =>
          rw [renderItems, encode_append, encode_cons_ascii (by decide), ih, ← piece_bytes]
          · rfl
          · simp

theorem encode_renderMembers (members : List (String × Json)) :
    encode (renderMembers members) =
      punctuated true (members.map fun member => (field member).bytes) := by
  induction members with
  | nil => rfl
  | cons member rest ih =>
      cases rest with
      | nil => simp [renderMembers, punctuated, field_bytes]
      | cons next others =>
          rw [renderMembers, encode_append, encode_cons_ascii (by decide), ih, ← field_bytes]
          · rfl
          · simp

theorem toNat_digit {char : Char} (isThere : char ∈ Nat.toDigits 10 value) :
    48 ≤ char.toNat ∧ char.toNat < 0x80 := by
  have isDigit := Nat.isDigit_of_mem_toDigits (by decide) (by decide) isThere
  have isCode : 48 ≤ char.toNat ∧ char.toNat ≤ 57 := by
    simpa [Char.isDigit, UInt32.le_iff_toNat_le] using isDigit
  omega

theorem renders_render (json : Json) : Renders json (encode json.render) := by
  induction json using nested_induction with
  | null => exact Renders.null
  | bool value =>
      cases value with
      | true => exact Renders.bool true
      | false => exact Renders.bool false
  | number value =>
      rw [render, encode_of_ascii fun char isThere => (toNat_digit isThere).2]
      exact Renders.number value
  | string text =>
      rw [render, encode_quoted]
      exact Renders.string (spells_escaped text.toList)
  | array items ih =>
      have renders := Renders.array Blank.none (items.map fun json => (json, piece json))
        (List.forall_mem_map.mpr ih)
      have isText : encode (render (.array items)) =
          bracketed '[' ']' Blank.none (items.map fun json => (piece json).bytes) := by
        rw [render, List.cons_append, encode_cons_ascii (by decide), encode_append,
          encode_renderItems]
        rfl
      rw [isText]
      simpa [Function.comp_def] using renders
  | object members ih =>
      have renders := Renders.object Blank.none (members.map fun member => (member.2, field member))
        (List.forall_mem_map.mpr ih)
      have isText : encode (render (.object members)) =
          bracketed '\x7b' '\x7d' Blank.none (members.map fun member => (field member).bytes) := by
        rw [render, List.cons_append, encode_cons_ascii (by decide), encode_append,
          encode_renderMembers]
        rfl
      rw [isText]
      simpa [Function.comp_def, field] using renders

theorem newline_notMem_escapeChar (char : Char) : '\n' ∉ escapeChar char := by
  rcases escapeChar_cases char with
    ⟨letter, isEscape, isWritten⟩ | ⟨isControl, isWritten⟩ | ⟨isPlain, _, isWritten⟩
  · have areOther : ∀ pair ∈ shortEscapes, '\n' ∉ ['\\', pair.1] := by decide
    rw [isWritten]
    exact areOther _ isEscape
  · have areOther : ∀ value < 16, hexDigit value ≠ '\n' := by decide
    have isHigh := areOther (char.toNat / 16) (by omega)
    have isLow := areOther (char.toNat % 16) (by omega)
    rw [isWritten]
    simp [isHigh.symm, isLow.symm]
  · rw [isWritten, List.mem_singleton]
    rintro rfl
    exact isPlain (by decide)

theorem newline_notMem_quoted (text : Text) : '\n' ∉ quoted text := by
  simp [quoted, newline_notMem_escapeChar]

theorem newline_notMem_render (json : Json) : '\n' ∉ json.render := by
  induction json using nested_induction with
  | null => decide
  | bool value => cases value <;> decide
  | number value => exact fun isThere => absurd (toNat_digit isThere).1 (by decide)
  | string text => exact newline_notMem_quoted text.toList
  | array items ih =>
      have areLines : '\n' ∉ renderItems items := by
        induction items with
        | nil => simp [renderItems]
        | cons item rest ihRest =>
            obtain ⟨isLine, areOthers⟩ := List.forall_mem_cons.mp ih
            cases rest with
            | nil => simpa [renderItems] using isLine
            | cons next others => simp [renderItems, isLine, ihRest areOthers]
      simp [render, areLines]
  | object members ih =>
      have areLines : '\n' ∉ renderMembers members := by
        induction members with
        | nil => simp [renderMembers]
        | cons member rest ihRest =>
            obtain ⟨isLine, areOthers⟩ := List.forall_mem_cons.mp ih
            cases rest with
            | nil => simp [renderMembers, newline_notMem_quoted, isLine]
            | cons next others =>
                simp [renderMembers, newline_notMem_quoted, isLine, ihRest areOthers]
      simp [render, areLines]

end FixtureRunner.Json
