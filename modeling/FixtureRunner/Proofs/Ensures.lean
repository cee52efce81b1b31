/-
What an action makes sure of.

Whatever an action finds and however it ends, the disk it leaves is as the result demands
if the disk before was as it should be.  An action may also just keep a property of the
disk, also where it fails.
-/

import FixtureRunner.Proofs.Disk.Removal
import FixtureRunner.Proofs.Workspace

namespace FixtureRunner.Action

variable {α β : Type}

/-- From a disk with a property before, the action leaves one with a property that may depend
on the result. -/
def Ensures (Before : Disk → Prop) (action : Action α) (After : Except Failure α → Disk → Prop) :
    Prop :=
  ∀ workspace : Workspace, Before workspace.disk →
    After (action.run workspace).1 (action.run workspace).2.disk

/-- The action keeps a property of the disk, whether it succeeds or fails. -/
def Maintains (Held : Disk → Prop) (action : Action α) : Prop :=
  Ensures Held action fun _ => Held

section Rules

variable {Before Held : Disk → Prop} {Between After : Except Failure α → Disk → Prop}
  {Finally : Except Failure β → Disk → Prop} {action : Action α} {next : α → Action β}

theorem Ensures.bind (begins : Ensures Before action Between)
    (stops : ∀ failure disk, Between (.error failure) disk → Finally (.error failure) disk)
    (goesOn : ∀ value, Ensures (Between (.ok value)) (next value) Finally) :
    Ensures Before (action >>= next) Finally := by
  intro workspace holds
  have between := begins workspace holds
  rw [run_bind]
  cases ran : action.run workspace with
  | mk result left =>
      rw [ran] at between
      cases result with
      | ok value => exact goesOn value left between
      | error failure => exact stops failure left.disk between

theorem Maintains.bind (begins : Maintains Held action) (goesOn : ∀ value, Maintains Held (next value)) :
    Maintains Held (action >>= next) :=
  Ensures.bind begins (fun _ _ held => held) goesOn

theorem Maintains.bind_ensures (begins : Maintains Held action)
    (stops : ∀ failure disk, Held disk → Finally (.error failure) disk)
    (goesOn : ∀ value, Ensures Held (next value) Finally) :
    Ensures Held (action >>= next) Finally :=
  Ensures.bind begins stops goesOn

theorem ensures_pure (value : α) (isAfter : ∀ disk, Before disk → After (.ok value) disk) :
    Ensures Before (pure value) After :=
  fun workspace holds => isAfter workspace.disk holds

theorem maintains_pure (value : α) : Maintains Held (pure value) :=
  ensures_pure value fun _ held => held

theorem maintains_throw (failure : Failure) : Maintains Held (throw failure : Action α) :=
  fun _ held => held

theorem maintains_record (event : Log.Event) : Maintains Held (record event) :=
  fun _ held => held

theorem maintains_disk : Maintains Held disk :=
  fun _ held => held

theorem maintains_emit (line : String) : Maintains Held (emit line) := by
  intro workspace held
  rw [run_emit]
  exact held

theorem maintains_readBytes (path : Path) : Maintains Held (readBytes path) := by
  intro workspace held
  rw [run_readBytes]
  cases workspace.disk.read path <;> exact held

theorem maintains_readText (path : Path) : Maintains Held (readText path) :=
  (maintains_readBytes path).bind fun _ => maintains_pure _

variable {path : Path}

theorem ensures_writeBytes {content : Bytes} {After : Except Failure Unit → Disk → Prop}
    (isRefused : ∀ failure disk, Before disk → After (.error failure) disk)
    (isWritten : ∀ disk written, Before disk → disk.write path content = .ok written → After
      (.ok ()) written) : Ensures Before (writeBytes path content) After := by
  intro workspace holds
  rw [run_writeBytes]
  cases written : workspace.disk.write path content with
  | error cause => exact isRefused _ workspace.disk holds
  | ok disk => exact isWritten workspace.disk disk holds written

theorem maintains_writeBytes {content : Bytes}
    (isWritten : ∀ disk written, Held disk → disk.write path content = .ok written → Held written) :
    Maintains Held (writeBytes path content) :=
  ensures_writeBytes (fun _ _ held => held) isWritten

theorem maintains_removeIfPresent
    (isRemoved : ∀ disk smaller, Held disk → disk.Removes path smaller → Held smaller) :
    Maintains Held (removeIfPresent path) := by
  intro workspace held
  rw [run_removeIfPresent]
  cases removed : workspace.disk.remove path with
  | ok disk => exact isRemoved workspace.disk disk held (Or.inl removed)
  | error cause =>
      simp only
      split <;> exact held

theorem maintains_run {host : Host} {invocation : Invocation}
    (performs : ∀ disk, Held disk → Held (host invocation.command disk).2) :
    Maintains Held (invocation.run host) := by
  intro workspace held
  obtain ⟨_, ran, _⟩ := invocation.launch_ends host _ workspace rfl
  rw [ran, Invocation.launch]
  split
  · exact held
  · have performed := performs workspace.disk held
    split <;> rename_i isPerformed <;> rw [isPerformed] at performed <;> exact performed

end Rules

end FixtureRunner.Action
