/-
How readers end.

A reader is followed by the bytes in front of it, not by the places it counts.  It reads a value
and leaves the bytes behind it, or it faults.
-/

import FixtureRunner.Json.ValueReader
import FixtureRunner.Proofs.Json.Grammar
import Mathlib.Data.Bool.AllAny

namespace FixtureRunner.Json.Reader

variable {α β : Type}

/-- Wherever it stands, the reader does on these bytes what the other one does on the rest. -/
def Leads (reader : Reader α) (bytes : Bytes) (other : Reader α) (rest : Bytes) : Prop :=
  ∀ place, ∃ later, reader.run ⟨bytes, place⟩ = other.run ⟨rest, later⟩

/-- The reader takes a value from the bytes and leaves the rest. -/
def Reads (reader : Reader α) (bytes : Bytes) (value : α) (rest : Bytes) : Prop :=
  reader.Leads bytes (pure value) rest

def Faults (reader : Reader α) (bytes : Bytes) : Prop :=
  ∀ place, ∃ fault left, reader.run ⟨bytes, place⟩ = (.error fault, left)

/-! ### One after the other -/

section Bind

variable {reader : Reader α} {next : α → Reader β} {bytes between rest : Bytes} {value : α}

theorem run_bind_ok {cursor after : Cursor} (ran : reader.run cursor = (.ok value, after)) :
    (reader >>= next).run cursor = (next value).run after := by
  have unfolded : (reader >>= next).run cursor =
      ExceptT.bindCont next (reader.run cursor).1 (reader.run cursor).2 := rfl
  rw [unfolded, ran]
  rfl

theorem run_bind_error {cursor after : Cursor} {fault : Fault}
    (ran : reader.run cursor = (.error fault, after)) :
    (reader >>= next).run cursor = (.error fault, after) := by
  have unfolded : (reader >>= next).run cursor =
      ExceptT.bindCont next (reader.run cursor).1 (reader.run cursor).2 := rfl
  rw [unfolded, ran]
  rfl

theorem Leads.refl (reader : Reader α) (bytes : Bytes) : reader.Leads bytes reader bytes :=
  fun place => ⟨place, rfl⟩

theorem Leads.trans {other last : Reader α} (first : reader.Leads bytes other between)
    (second : other.Leads between last rest) : reader.Leads bytes last rest := by
  intro place
  obtain ⟨midway, ran⟩ := first place
  obtain ⟨later, ranOn⟩ := second midway
  exact ⟨later, ran.trans ranOn⟩

theorem Leads.faults {other : Reader α} (leads : reader.Leads bytes other rest)
    (faults : other.Faults rest) : reader.Faults bytes := by
  intro place
  obtain ⟨midway, ran⟩ := leads place
  obtain ⟨fault, left, ranOn⟩ := faults midway
  exact ⟨fault, left, ran.trans ranOn⟩

theorem Reads.leads (reads : reader.Reads bytes value between) :
    (reader >>= next).Leads bytes (next value) between := by
  intro place
  obtain ⟨midway, ran⟩ := reads place
  exact ⟨midway, run_bind_ok ran⟩

theorem Reads.bind {last : Reader β} (first : reader.Reads bytes value between)
    (second : (next value).Leads between last rest) : (reader >>= next).Leads bytes last rest :=
  first.leads.trans second

theorem Reads.bind_faults (first : reader.Reads bytes value between)
    (second : (next value).Faults between) : (reader >>= next).Faults bytes :=
  first.leads.faults second

theorem Faults.bind (first : reader.Faults bytes) : (reader >>= next).Faults bytes := by
  intro place
  obtain ⟨fault, left, ran⟩ := first place
  exact ⟨fault, left, run_bind_error ran⟩

end Bind

variable {rest bytes : Bytes}

theorem Reads.read_eq {reader : Reader α} {value : α} (reads : reader.Reads bytes value rest) :
    reader.read bytes = .ok value := by
  obtain ⟨later, ran⟩ := reads .start
  exact congrArg Prod.fst ran

theorem Faults.read_eq {reader : Reader α} (faults : reader.Faults bytes) :
    ∃ fault, reader.read bytes = .error fault := by
  obtain ⟨fault, left, ran⟩ := faults .start
  exact ⟨fault, congrArg Prod.fst ran⟩

theorem reads_pure (value : α) (bytes : Bytes) : (pure value : Reader α).Reads bytes value bytes :=
  Leads.refl _ bytes

theorem leads_get {next : Cursor → Reader α} {last : Reader α}
    (leads : ∀ place, (next ⟨bytes, place⟩).Leads bytes last rest) :
    ((get : Reader Cursor) >>= next).Leads bytes last rest :=
  fun place => leads place place

/-! ### Single bytes -/

theorem reads_peek (bytes : Bytes) : peek.Reads bytes bytes.head? bytes :=
  fun place => ⟨place, rfl⟩

theorem reads_drop (byte : UInt8) (rest : Bytes) : drop.Reads (byte :: rest) () rest :=
  fun _ => ⟨_, rfl⟩

theorem reads_take (byte : UInt8) (rest : Bytes) : take.Reads (byte :: rest) (some byte) rest :=
  fun _ => ⟨_, rfl⟩

theorem faults_failAhead (cause : Cause) (bytes : Bytes) :
    (failAhead cause : Reader α).Faults bytes :=
  fun _ => ⟨_, _, rfl⟩

theorem faults_failUnplaced (cause : Cause) (bytes : Bytes) :
    (failUnplaced cause : Reader α).Faults bytes :=
  fun _ => ⟨_, _, rfl⟩

/-! ### Several bytes -/

theorem reads_over {move : Cursor → Cursor} {front : Bytes}
    (isMove : ∀ place, move ⟨front ++ rest, place⟩ = front.foldl (fun moved _ => moved.next)
      ⟨front ++ rest, place⟩) : (modify move : Reader Unit).Reads (front ++ rest) () rest := by
  have moves : ∀ place, ∃ later, front.foldl (fun (moved : Cursor) _ => moved.next)
      ⟨front ++ rest, place⟩ = ⟨rest, later⟩ := by
    clear isMove
    induction front with
    | nil => exact fun place => ⟨place, rfl⟩
    | cons byte others ih => exact fun place => ih (place.after byte)
  intro place
  obtain ⟨later, isLater⟩ := moves place
  exact ⟨later, congrArg (fun cursor => (Except.ok (), cursor)) ((isMove place).trans isLater)⟩

theorem reads_finishWord (word : List Char) (rest : Bytes) :
    (finishWord word).Reads (word.map ascii ++ rest) () rest := by
  induction word with
  | nil => exact reads_pure () rest
  | cons char others ih =>
      refine (reads_take (ascii char) (others.map ascii ++ rest)).bind ?_
      simp only [if_true]
      exact ih

/-! ### Blanks -/

theorem takeWhile_append {test : UInt8 → Bool} {front : Bytes}
    (passes : ∀ byte ∈ front, test byte = true) (ends : ∀ byte ∈ rest.head?, test byte = false) :
    (front ++ rest).takeWhile test = front := by
  rw [List.takeWhile_append_of_pos passes]
  cases rest with
  | nil => simp
  | cons byte others => simp [ends byte rfl]

theorem isSpace_iff (byte : UInt8) : isSpace byte = true ↔ byte ∈ blankBytes := by
  simp [isSpace, blankBytes, or_assoc]

theorem reads_peekToken (blank : Blank) (isToken : ∀ byte ∈ rest.head?, byte ∉ blankBytes) :
    peekToken.Reads (blank.bytes ++ rest) rest.head? rest := by
  have areTaken : (blank.bytes ++ rest).takeWhile isSpace = blank.bytes := by
    refine takeWhile_append (fun byte isThere => ?_) fun byte isFirst => ?_
    · exact (isSpace_iff byte).mpr (blank.areBlank byte isThere)
    · rw [← Bool.not_eq_true, isSpace_iff]
      exact isToken byte isFirst
  refine (reads_over fun place => ?_).bind (reads_peek rest)
  rw [areTaken]

theorem reads_token (blank : Blank) {byte : UInt8} (isToken : byte ∉ blankBytes) (rest : Bytes) :
    peekToken.Reads (blank.bytes ++ byte :: rest) (some byte) (byte :: rest) := by
  refine reads_peekToken blank fun other isFirst => ?_
  rw [← Option.some.inj isFirst]
  exact isToken

def separators : Bytes :=
  blankBytes ++ [',', ']', '\x7d'].map ascii

/-- What stands behind a value does not continue it. -/
def Ends (behind : Bytes) : Prop :=
  ∀ byte ∈ behind.head?, byte ∈ separators

theorem ends_cons {byte : UInt8} (isSeparator : byte ∈ separators) (rest : Bytes) :
    Ends (byte :: rest) := by
  intro other isOther
  rw [← Option.some.inj isOther]
  exact isSeparator

theorem ends_blank (blank : Blank) {behind : Bytes} (ends : Ends behind) :
    Ends (blank.bytes ++ behind) := by
  intro byte isFirst
  obtain ⟨bytes, areBlank⟩ := blank
  cases bytes with
  | nil => exact ends byte isFirst
  | cons first others =>
      rw [← Option.some.inj isFirst]
      exact List.mem_append_left _ (areBlank first List.mem_cons_self)

/-! ### Faults that are caught -/

section Catch

variable {reader : Reader α} {handle : Fault → Reader α} {cursor after : Cursor}

theorem run_tryCatch_ok {value : α} (ran : reader.run cursor = (.ok value, after)) :
    (tryCatch reader handle).run cursor = (.ok value, after) := by
  have direct : reader cursor = (.ok value, after) := ran
  simp [tryCatch, tryCatchThe, MonadExceptOf.tryCatch, ExceptT.run, ExceptT.tryCatch, ExceptT.mk,
    bind, StateT.bind, direct]
  rfl

theorem run_tryCatch_error {fault : Fault} (ran : reader.run cursor = (.error fault, after)) :
    (tryCatch reader handle).run cursor = (handle fault).run after := by
  have direct : reader cursor = (.error fault, after) := ran
  simp [tryCatch, tryCatchThe, MonadExceptOf.tryCatch, ExceptT.run, ExceptT.tryCatch, ExceptT.mk,
    bind, StateT.bind, direct]

end Catch

section Enclosing

variable {inside : Reader α} {close : Reader Unit} {bytes between rest : Bytes} {value : α}

theorem Reads.placed (reads : inside.Reads bytes value rest) :
    (placed inside).Reads bytes value rest := by
  intro place
  obtain ⟨later, ran⟩ := reads place
  exact ⟨later, run_tryCatch_ok ran⟩

theorem Faults.placed (faults : inside.Faults bytes) : (placed inside).Faults bytes := by
  intro place
  obtain ⟨⟨cause, found⟩, left, ran⟩ := faults place
  cases found with
  | some _ => exact ⟨_, _, run_tryCatch_error ran⟩
  | none => exact ⟨_, _, run_tryCatch_error ran⟩

theorem Reads.closing (reads : inside.Reads bytes value between)
    (closes : close.Reads between () rest) : (closing inside close).Reads bytes value rest := by
  intro place
  obtain ⟨midway, ran⟩ := (reads.bind (reads_pure (Except.ok value) between) :
    (inside >>= fun value => pure (Except.ok value) : Reader (Except Fault α)).Reads _ _ _) place
  obtain ⟨later, ranOn⟩ := closes midway
  exact ⟨later, (run_bind_ok (run_tryCatch_ok ran)).trans (run_bind_ok ranOn)⟩

theorem Faults.closing (faults : inside.Faults bytes) : (closing inside close).Faults bytes := by
  intro place
  obtain ⟨fault, left, ran⟩ := (faults.bind :
    (inside >>= fun value => pure (Except.ok value) : Reader (Except Fault α)).Faults _) place
  have caught : ∃ after, (tryCatch close fun _ => pure ()).run left = (.ok (), after) := by
    cases closed : close.run left with
    | mk result after =>
        cases result with
        | ok _ => exact ⟨after, run_tryCatch_ok closed⟩
        | error _ => exact ⟨after, run_tryCatch_error closed⟩
  obtain ⟨after, ranOn⟩ := caught
  exact ⟨fault, after, (run_bind_ok (run_tryCatch_error ran)).trans (run_bind_ok ranOn)⟩

end Enclosing

end FixtureRunner.Json.Reader
