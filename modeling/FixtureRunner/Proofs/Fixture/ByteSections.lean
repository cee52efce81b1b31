/-
Cutting bytes and cutting text.

A function on lists mirrors a mark if it carries every mark to one image, makes the image of
nothing else, and carries what stands on both sides of a mark apart.  Cutting at a run of marks
commutes with such a function.  Decoding and encoding mirror every character below 0x80, so the
sections of a fixture are the decoded pieces of its bytes, whatever bytes these are.
-/

import FixtureRunner.Proofs.Fixture.Bars
import FixtureRunner.Proofs.Text.Decoding

namespace FixtureRunner

open Text (encode decode)

namespace Fixture

/-- Every mark is carried to its image and is the only origin of it; what stands before and
behind a mark is carried on its own. -/
structure Mirrors {α β : Type} (carry : List α → List β) (mark : α) (image : β) : Prop where
  apart : ∀ front back, carry (front ++ mark :: back) = carry front ++ image :: carry back
  origin : ∀ {text before after}, carry text = before ++ image :: after →
    ∃ front back, text = front ++ mark :: back ∧ carry front = before ∧ carry back = after
  eq_nil_iff : ∀ text, carry text = [] ↔ text = []

namespace Mirrors

variable {α β : Type} {carry : List α → List β} {mark : α} {image : β} {count : Nat}

theorem run_iff (mirrors : Mirrors carry mark image) (isPositive : 0 < count) {text : List α}
    {before after : List β} :
    carry text = before ++ (List.replicate count image ++ after) ↔
      ∃ front back, text = front ++ (List.replicate count mark ++ back) ∧
        carry front = before ∧ carry back = after := by
  induction count generalizing text before with
  | zero => exact absurd isPositive (Nat.lt_irrefl 0)
  | succ count ih =>
      simp only [List.replicate_succ, List.cons_append]
      cases count with
      | zero =>
          constructor
          · exact mirrors.origin
          · rintro ⟨front, back, rfl, rfl, rfl⟩
            exact mirrors.apart front back
      | succ count =>
          constructor
          · intro carried
            obtain ⟨front, rest, rfl, isBefore, isRest⟩ := mirrors.origin carried
            obtain ⟨none, back, rfl, isNone, isAfter⟩ := (ih (Nat.succ_pos count)).mp
              (isRest.trans (List.nil_append _).symm)
            obtain rfl := (mirrors.eq_nil_iff none).mp isNone
            exact ⟨front, back, rfl, isBefore, isAfter⟩
          · rintro ⟨front, back, rfl, rfl, rfl⟩
            have later : carry (List.replicate (count + 1) mark ++ back) =
                [] ++ (List.replicate (count + 1) image ++ carry back) :=
              (ih (Nat.succ_pos count)).mpr ⟨[], back, rfl, (mirrors.eq_nil_iff []).mpr rfl, rfl⟩
            rw [mirrors.apart, later]
            rfl

theorem infix_iff (mirrors : Mirrors carry mark image) (isPositive : 0 < count) (text : List α) :
    List.replicate count image <:+: carry text ↔ List.replicate count mark <:+: text := by
  constructor
  · rintro ⟨before, after, same⟩
    rw [List.append_assoc] at same
    obtain ⟨front, back, rfl, _, _⟩ := (mirrors.run_iff isPositive).mp same.symm
    exact ⟨front, back, List.append_assoc _ _ _⟩
  · rintro ⟨front, back, same⟩
    rw [List.append_assoc] at same
    have carried := (mirrors.run_iff isPositive).mpr ⟨front, back, same.symm, rfl, rfl⟩
    exact ⟨carry front, carry back, by rw [carried, List.append_assoc]⟩

theorem getLast?_iff (mirrors : Mirrors carry mark image) (text : List α) :
    (carry text).getLast? = some image ↔ text.getLast? = some mark := by
  rw [List.getLast?_eq_some_iff, List.getLast?_eq_some_iff]
  constructor
  · rintro ⟨before, carried⟩
    obtain ⟨front, back, rfl, _, isNone⟩ := mirrors.origin carried
    obtain rfl := (mirrors.eq_nil_iff back).mp isNone
    exact ⟨front, rfl⟩
  · rintro ⟨front, rfl⟩
    refine ⟨carry front, ?_⟩
    rw [mirrors.apart, (mirrors.eq_nil_iff []).mpr rfl]

theorem cut_eq [DecidableEq α] [DecidableEq β] (mirrors : Mirrors carry mark image)
    (isPositive : 0 < count) (text : List α) :
    cut (List.replicate count image) (carry text) =
      (cut (List.replicate count mark) text).map carry := by
  have isMark : List.replicate count mark ≠ [] := by simp [Nat.ne_of_gt isPositive]
  have isImage : List.replicate count image ≠ [] := by simp [Nat.ne_of_gt isPositive]
  -- Each cut leaves a shorter text behind it.
  induction isSize : text.length using Nat.strongRecOn generalizing text with
  | ind size ih =>
      rcases cut_cases (List.replicate count mark) text isMark with
        ⟨whole, isAbsent⟩ | ⟨front, rest, rfl, isLeftmost, pieces⟩
      · rw [← mirrors.infix_iff isPositive] at isAbsent
        rw [whole, cut_eq_singleton _ _ isAbsent]
        rfl
      · have isLeftmostThere : StartsNoneIn (List.replicate count image) (carry front)
            (List.replicate count image ++ carry rest) := by
          rw [startsNoneIn_replicate_iff _ _ _ _ isPositive] at isLeftmost ⊢
          rw [mirrors.infix_iff isPositive, Ne, mirrors.getLast?_iff]
          exact isLeftmost
        have carried := (mirrors.run_iff isPositive).mpr ⟨front, rest, rfl, rfl, rfl⟩
        have isShorter : rest.length < size := by
          rw [← isSize, List.length_append, List.length_append, List.length_replicate]
          omega
        rw [pieces, carried, cut_append_delimiter _ _ _ isImage isLeftmostThere,
          ih rest.length isShorter rest rfl]
        rfl

end Mirrors

theorem decode_mirrors {char : Char} (isAscii : char.toNat < 0x80) :
    Mirrors decode (UInt8.ofNat char.toNat) char where
  apart front back := by
    have byteCode : (UInt8.ofNat char.toNat).toNat = char.toNat := by
      rw [UInt8.toNat_ofNat']
      omega
    have decoded := Text.decodeFrom_append_ascii Text.isSound_none front back
      (byteCode.trans_lt isAscii)
    rw [byteCode, Char.ofNat_toNat] at decoded
    exact decoded
  origin := Text.origin_of_decodeFrom Text.isSound_none isAscii
  eq_nil_iff content := by
    rw [decode, Text.decodeFrom_eq_nil_iff]
    exact and_iff_right rfl

theorem encode_mirrors {char : Char} (isAscii : char.toNat < 0x80) :
    Mirrors encode char (UInt8.ofNat char.toNat) where
  apart front back := by
    simp only [encode, List.flatMap_append, List.flatMap_cons, Text.encodeChar_ascii isAscii]
    rfl
  origin := Text.origin_of_encode isAscii
  eq_nil_iff := Text.encode_eq_nil_iff

/-! ### The bytes of a fixture -/

def delimiterBytes : Bytes := List.replicate 8 0x3D

theorem sections_decode (content : Bytes) :
    sections (decode content) = (cut delimiterBytes content).map decode := by
  have isAscii : '='.toNat < 0x80 := by decide
  rw [sections, delimiter_eq_replicate]
  exact (decode_mirrors isAscii).cut_eq (by omega) content

theorem cut_encode (text : Text) :
    cut delimiterBytes (encode text) = (sections text).map encode := by
  have isAscii : '='.toNat < 0x80 := by decide
  rw [sections, delimiter_eq_replicate]
  exact (encode_mirrors isAscii).cut_eq (by omega) text

/-- The delimiter stands in a decoded text exactly where its bytes stand. -/
theorem decode_eq_delimited_iff (content : Bytes) (first second : Text) :
    decode content = first ++ (delimiter ++ second) ↔
      ∃ front back, content = front ++ (delimiterBytes ++ back) ∧
        decode front = first ∧ decode back = second := by
  have isAscii : '='.toNat < 0x80 := by decide
  rw [delimiter_eq_replicate]
  exact (decode_mirrors isAscii).run_iff (by omega)

theorem encode_decode_of_mem_cut {content piece : Bytes} {text : Text}
    (isEncoded : content = encode text) (isPiece : piece ∈ cut delimiterBytes content) :
    encode (decode piece) = piece := by
  rw [isEncoded, cut_encode] at isPiece
  obtain ⟨part, _, rfl⟩ := List.mem_map.mp isPiece
  rw [Text.decode_encode]

end Fixture

namespace Artifacts

open FixtureRunner.Action

/-- Whatever the bytes of a fixture are, it has the sections that its bytes have, and each of them
is the decoded piece of the bytes.  The delimiter stands in the text where its bytes stand, however
the bytes beside it are decoded.  Of two pieces the decoded texts are written; if the bytes are
well formed, these are the pieces themselves. -/
theorem split_by_bytes {path : Path} {content : Bytes} {before : Workspace}
    (isFixture : path.isFixture = true) (isRead : before.disk.read path = .ok content) :
    Fixture.sections (Text.decode content) =
      (Fixture.cut Fixture.delimiterBytes content).map Text.decode ∧
    (∀ first second, Text.decode content = first ++ (Fixture.delimiter ++ second) ↔
      ∃ front back, content = front ++ (Fixture.delimiterBytes ++ back) ∧
        Text.decode front = first ∧ Text.decode back = second) ∧
    (∀ count, ((ofFixture path).split.run before).1 = .ok (.malformed count) ↔
      count = (Fixture.cut Fixture.delimiterBytes content).length ∧ count ≠ 2) ∧
    ∀ source expected, Fixture.cut Fixture.delimiterBytes content = [source, expected] →
      content = source ++ (Fixture.delimiterBytes ++ expected) ∧
      (∀ after, (ofFixture path).split.run before = (.ok .written, after) →
        ∃ between,
          before.disk.write (ofFixture path).source (Text.encode (Text.decode source)) =
            .ok between ∧
          between.write (ofFixture path).expected (Text.encode (Text.decode expected)) =
            .ok after.disk) ∧
      (before.disk.IsOpen (ofFixture path).source → before.disk.IsOpen (ofFixture path).expected →
        ∃ after, (ofFixture path).split.run before = (.ok .written, after) ∧
          after.disk.read (ofFixture path).source = .ok (Text.encode (Text.decode source)) ∧
          after.disk.read (ofFixture path).expected = .ok (Text.encode (Text.decode expected))) ∧
      ∀ text, content = Text.encode text →
        Text.encode (Text.decode source) ++
          (Fixture.delimiterBytes ++ Text.encode (Text.decode expected)) = content := by
  have isReadFixture : before.disk.read (ofFixture path).fixture = .ok content := isRead
  have commutes := Fixture.sections_decode content
  refine ⟨commutes, Fixture.decode_eq_delimited_iff content, ?_, ?_⟩
  · intro count
    rw [split_eq_malformed_iff isReadFixture, commutes, List.length_map]
  · intro source expected isCut
    have isPair : Fixture.sections (Text.decode content) =
        [Text.decode source, Text.decode expected] := by
      rw [commutes, isCut]
      rfl
    have isWhole : content = source ++ (Fixture.delimiterBytes ++ expected) :=
      ((Fixture.cut_eq_pair_iff _ _ _ _ (by decide)).mp isCut).1
    refine ⟨isWhole, fun after isSplit => (writes_of_split isReadFixture isPair isSplit).2, ?_, ?_⟩
    · intro sourceOpen expectedOpen
      obtain ⟨_, _, leads⟩ := Disk.leads_of_read isRead
      obtain ⟨between, left, isSource, isExpected, sourceBack, expectedBack⟩ :=
        Disk.write_sections isFixture leads sourceOpen expectedOpen
          (Text.encode (Text.decode source)) (Text.encode (Text.decode expected))
      obtain ⟨log, ran, _⟩ := split_ends_of_writes isReadFixture isPair isSource isExpected _ rfl
      exact ⟨_, ran, sourceBack, expectedBack⟩
    · intro text isEncoded
      rw [Fixture.encode_decode_of_mem_cut isEncoded (by rw [isCut]; simp),
        Fixture.encode_decode_of_mem_cut isEncoded (by rw [isCut]; simp), isWhole]

def interruptedBytes : Bytes :=
  [0x61, 0xE2, 0x82] ++ (Fixture.delimiterBytes ++ [0xAC, 0x0A])

def byteDisk (content : Bytes) : Disk :=
  (Disk.empty ["work"]).put ["work", "a.tst"] (.file content false)

/-- A character that the delimiter interrupts is replaced on both sides of it; one that ends
before the delimiter is kept. -/
theorem split_by_bytes_interrupted :
    (∃ after, (ofFixture ⟨"a.tst"⟩).split.run { disk := byteDisk interruptedBytes } =
        (.ok .written, after) ∧
      after.disk.read ⟨"a.syp"⟩ = .ok (Text.toBytes "a\uFFFD") ∧
      after.disk.read ⟨"a.exp"⟩ = .ok (Text.toBytes "\uFFFD\n")) ∧
    Text.encode (Text.decode [0x61, 0xE2, 0x82, 0xAC]) ++
      (Fixture.delimiterBytes ++ Text.encode (Text.decode [0x0A])) =
        Text.toBytes "a\u20AC========\n" := by
  have isFixture : Path.isFixture ⟨"a.tst"⟩ = true := by decide
  constructor
  · have isRead : { disk := byteDisk interruptedBytes : Workspace }.disk.read ⟨"a.tst"⟩ =
        .ok interruptedBytes := by decide +kernel
    have isCut : Fixture.cut Fixture.delimiterBytes interruptedBytes =
        [[0x61, 0xE2, 0x82], [0xAC, 0x0A]] := by decide
    have isOpen (path : Path) (isNoLink : (byteDisk interruptedBytes).isLink path = false)
        (isMissing : (byteDisk interruptedBytes).find path = .error .missing) :
        (byteDisk interruptedBytes).IsOpen path := by
      refine ⟨isNoLink, fun location found => ?_⟩
      rw [isMissing] at found
      cases found
    have sourceOpen := isOpen ⟨"a.syp"⟩ (by decide +kernel) (by decide +kernel)
    have expectedOpen := isOpen ⟨"a.exp"⟩ (by decide +kernel) (by decide +kernel)
    obtain ⟨_, _, _, pair⟩ := split_by_bytes isFixture isRead
    exact (pair _ _ isCut).2.2.1 sourceOpen expectedOpen
  · have isRead : { disk := byteDisk (Text.toBytes "a\u20AC========\n") : Workspace }.disk.read
        ⟨"a.tst"⟩ = .ok (Text.toBytes "a\u20AC========\n") := by decide +kernel
    have isCut : Fixture.cut Fixture.delimiterBytes (Text.toBytes "a\u20AC========\n") =
        [[0x61, 0xE2, 0x82, 0xAC], [0x0A]] := by decide
    obtain ⟨_, _, _, pair⟩ := split_by_bytes isFixture isRead
    exact (pair _ _ isCut).2.2.2 _ rfl

end Artifacts

end FixtureRunner
