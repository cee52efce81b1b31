/-
What is kept of a stream.

However a stream arrives, the reader goes on to its end, never reaches beyond its buffer and keeps
the first bytes up to the cap.
-/

import FixtureRunner.Process.Output

namespace FixtureRunner.Capture

/-- The first bytes of a stream, and whether there are more. -/
def ofStream (cap : Nat) (stream : Bytes) : Capture :=
  { kept := stream.take cap, truncated := decide (cap < stream.length) }

/-! ### One read -/

section Read

variable {cap : Nat} {before buffer read : Bytes}

theorem length_fill (buffer read : Bytes) : (fill buffer read).length = buffer.length := by
  simp only [fill, List.length_take, List.length_append, List.length_drop]
  omega

theorem slice?_fill {length : Nat} (isRead : read.length ≤ buffer.length)
    (isInside : length ≤ read.length) : slice? (fill buffer read) length = some (read.take length) := by
  rw [slice?, length_fill, if_pos (Nat.le_trans isInside isRead), fill, List.take_take,
    Nat.min_eq_left (Nat.le_trans isInside isRead), List.take_append_of_le_length isInside]

/-- A read goes on with the stream, also after the cap has been filled exactly. -/
theorem take?_ofStream (isRead : read.length ≤ buffer.length) (isFilled : read ≠ []) :
    (ofStream cap before).take? cap (fill buffer read) read.length =
      some (ofStream cap (before ++ read)) := by
  have isLonger := List.length_pos_iff.mpr isFilled
  simp only [take?, ofStream, List.length_append, List.take_append]
  by_cases isCut : cap < before.length
  · have isStillCut : cap < before.length + read.length := Nat.lt_add_right _ isCut
    simp [isCut, isStillCut, Nat.sub_eq_zero_of_le (Nat.le_of_lt isCut)]
  · have isKept : before.take cap = before := List.take_of_length_le (Nat.not_lt.mp isCut)
    simp only [isCut, isKept, decide_false, Bool.false_eq_true, if_false]
    by_cases isRoom : read.length ≤ cap - before.length
    · have isWhole : ¬cap < before.length + read.length := by omega
      rw [if_pos isRoom, slice?_fill isRead (Nat.le_refl _), List.take_of_length_le isRoom]
      simp [isWhole]
    · have isOver : cap < before.length + read.length := by omega
      rw [if_neg isRoom, slice?_fill isRead (Nat.le_of_not_le isRoom)]
      simp [isOver]

end Read

/-! ### All reads -/

/-- A read brings something, and no more than the buffer holds. -/
def IsRead (read : Bytes) : Prop :=
  1 ≤ read.length ∧ read.length ≤ bufferSize

theorem readToEnd?_ofStream {cap : Nat} {reads later : List Bytes}
    (areReads : ∀ read ∈ reads, IsRead read) {before buffer : Bytes}
    (isBuffer : buffer.length = bufferSize) (isEnd : ∀ next ∈ later.head?, next = []) :
    readToEnd? cap (ofStream cap before) buffer (reads ++ later) =
      some (ofStream cap (before ++ reads.flatten), later.tail) := by
  induction reads generalizing before buffer with
  | nil =>
      rw [List.flatten_nil, List.append_nil, List.nil_append]
      cases later with
      | nil => rfl
      | cons next rest => rw [readToEnd?, if_pos (isEnd next rfl), List.tail_cons]
  | cons read rest ih =>
      obtain ⟨isSome, isSmall⟩ := areReads read List.mem_cons_self
      have isFilled : read ≠ [] := List.length_pos_iff.mp isSome
      rw [List.cons_append, readToEnd?, if_neg isFilled]
      simp only [take?_ofStream (isBuffer ▸ isSmall) isFilled]
      refine (ih (fun next isThere => areReads next (List.mem_cons_of_mem _ isThere))
        ((length_fill buffer read).trans isBuffer)).trans ?_
      rw [List.append_assoc, List.flatten_cons]

theorem readToEnd?_start (cap : Nat) {reads : List Bytes} (areReads : ∀ read ∈ reads, IsRead read)
    (later : List Bytes) (isEnd : ∀ next ∈ later.head?, next = []) :
    readToEnd? cap {} (List.replicate bufferSize 0) (reads ++ later) =
      some (ofStream cap reads.flatten, later.tail) := by
  have isNothing : ofStream cap [] = {} := by simp [ofStream]
  rw [← isNothing]
  exact readToEnd?_ofStream areReads List.length_replicate isEnd

/-! ### Chunks -/

theorem isRead_of_mem_pieces {chunk piece : Bytes} (isPiece : piece ∈ pieces chunk) :
    IsRead piece := by
  obtain ⟨index, isIndex, rfl⟩ := List.mem_map.mp isPiece
  rw [List.mem_range, bufferSize] at isIndex
  rw [IsRead, List.length_take, List.length_drop, bufferSize]
  omega

theorem flatten_pieces (chunk : Bytes) : (pieces chunk).flatten = chunk := by
  have areFirst (count : Nat) : ((List.range count).map fun index =>
      (chunk.drop (index * bufferSize)).take bufferSize).flatten =
        chunk.take (count * bufferSize) := by
    induction count with
    | zero => simp
    | succ count ih =>
        rw [List.range_succ, List.map_append, List.flatten_append, ih, Nat.succ_mul, List.take_add]
        simp
  rw [pieces, areFirst, List.take_of_length_le]
  rw [bufferSize]
  omega

theorem flatten_flatMap_pieces (chunks : List Bytes) :
    (chunks.flatMap pieces).flatten = chunks.flatten := by
  induction chunks with
  | nil => rfl
  | cons chunk rest ih =>
      rw [List.flatMap_cons, List.flatten_append, flatten_pieces, ih, List.flatten_cons]

/-- However a stream is read up to its end, all of it is read and the first bytes are kept, never
more than the cap; so it is with the chunks of every host. -/
theorem readToEnd?_chunking (cap : Nat) (reads later : List Bytes)
    (areReads : ∀ read ∈ reads, IsRead read) :
    readToEnd? cap {} (List.replicate bufferSize 0) (reads ++ [] :: later) =
        some (⟨reads.flatten.take cap, decide (cap < reads.flatten.length)⟩, later) ∧
      (∀ before after, reads = before ++ after → ∃ capture,
        readToEnd? cap {} (List.replicate bufferSize 0) before = some (capture, []) ∧
          capture.kept.length ≤ cap) ∧
      ∀ chunks, collect cap chunks =
        ⟨chunks.flatten.take cap, decide (cap < chunks.flatten.length)⟩ := by
  refine ⟨readToEnd?_start cap areReads ([] :: later) (by simp), ?_, ?_⟩
  · rintro before after rfl
    have isRead := readToEnd?_start cap (fun read isThere =>
      areReads read (List.mem_append_left after isThere)) [] (by simp)
    rw [List.append_nil] at isRead
    exact ⟨_, isRead, List.length_take_le cap _⟩
  · intro chunks
    have areAllReads : ∀ read ∈ chunks.flatMap pieces, IsRead read := by
      intro read isThere
      obtain ⟨chunk, _, isPiece⟩ := List.mem_flatMap.mp isThere
      exact isRead_of_mem_pieces isPiece
    have isRead := readToEnd?_start cap areAllReads [] (by simp)
    rw [List.append_nil, flatten_flatMap_pieces] at isRead
    rw [collect, isRead]
    rfl

theorem readToEnd?_chunking_exact :
    readToEnd? 3 {} (List.replicate bufferSize 0) [[1, 2], [3], [4], []] =
      some (⟨[1, 2, 3], true⟩, []) :=
  (readToEnd?_chunking 3 [[1, 2], [3], [4]] [] (by simp [IsRead, bufferSize])).1

end FixtureRunner.Capture
