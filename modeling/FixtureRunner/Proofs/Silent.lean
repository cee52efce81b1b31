/-
Actions that nothing but the disk matters to.

Such an action has the same result and leaves the same disk whatever was recorded and written
before, and writes nothing to the console.  So it can be followed as a function of the disk.
-/

import FixtureRunner.Proofs.Workspace

namespace FixtureRunner.Action

variable {α β : Type}

/-- What an action returns on a disk, and the disk it leaves. -/
def callOn (action : Action α) (disk : Disk) : Except Failure α × Disk :=
  ((action.run { disk }).1, (action.run { disk }).2.disk)

/-- The action depends on the disk alone, and does not write to the console. -/
def Silent (action : Action α) : Prop :=
  ∀ workspace : Workspace, ∃ log, action.run workspace =
    ((action.callOn workspace.disk).1,
      { workspace with disk := (action.callOn workspace.disk).2, log := log })

/-- An action is silent if some function of the disk says what it does. -/
theorem silent_of_run {action : Action α} (effect : Disk → Except Failure α × Disk)
    (runs : ∀ workspace : Workspace, ∃ log, action.run workspace =
      ((effect workspace.disk).1,
        { workspace with disk := (effect workspace.disk).2, log := log })) : Silent action := by
  have called (disk : Disk) : action.callOn disk = effect disk := by
    obtain ⟨log, ran⟩ := runs { disk }
    rw [callOn, ran]
  intro workspace
  rw [called]
  exact runs workspace

/-- Goes on after a call that returned a value. -/
def callNext (next : α → Action β) : Except Failure α × Disk → Except Failure β × Disk
  | (.ok value, left) => (next value).callOn left
  | (.error failure, left) => (.error failure, left)

theorem Silent.bind {action : Action α} {next : α → Action β} (begins : Silent action)
    (goesOn : ∀ value, Silent (next value)) : Silent (action >>= next) := by
  refine silent_of_run (fun disk => callNext next (action.callOn disk)) fun workspace => ?_
  obtain ⟨log, ran⟩ := begins workspace
  rw [run_bind, ran]
  cases called : action.callOn workspace.disk with
  | mk result left =>
      cases result with
      | error failure => exact ⟨log, rfl⟩
      | ok value =>
          obtain ⟨finalLog, ranOn⟩ := goesOn value { workspace with disk := left, log := log }
          exact ⟨finalLog, ranOn⟩

theorem silent_pure (value : α) : Silent (pure value) :=
  silent_of_run (fun disk => (.ok value, disk)) fun workspace => ⟨workspace.log, rfl⟩

theorem silent_throw (failure : Failure) : Silent (throw failure : Action α) :=
  silent_of_run (fun disk => (.error failure, disk)) fun workspace => ⟨workspace.log, rfl⟩

theorem silent_record (event : Log.Event) : Silent (record event) :=
  silent_of_run (fun disk => (.ok (), disk)) fun workspace => ⟨workspace.log ++ [event], rfl⟩

theorem silent_disk : Silent disk :=
  silent_of_run (fun disk => (.ok disk, disk)) fun workspace => ⟨workspace.log, rfl⟩

theorem silent_setDisk (disk : Disk) : Silent (setDisk disk) :=
  silent_of_run (fun _ => (.ok (), disk)) fun workspace => ⟨workspace.log, rfl⟩

theorem silent_atPath (path : Path) (result : Except SystemError α) :
    Silent (atPath path result) := by
  cases result with
  | ok value => exact silent_pure value
  | error cause => exact silent_throw _

theorem silent_readBytes (path : Path) : Silent (readBytes path) :=
  silent_disk.bind fun _ => silent_atPath path _

theorem silent_writeBytes (path : Path) (content : Bytes) : Silent (writeBytes path content) :=
  silent_disk.bind fun _ => (silent_atPath path _).bind fun written => silent_setDisk written

theorem silent_removeIfPresent (path : Path) : Silent (removeIfPresent path) := by
  refine silent_disk.bind fun held => ?_
  cases held.remove path with
  | ok smaller => exact silent_setDisk smaller
  | error cause =>
      by_cases isMissing : cause = .missing
      · simp only [if_pos isMissing]
        exact silent_pure ()
      · simp only [if_neg isMissing]
        exact silent_throw _

theorem silent_run (host : Host) (invocation : Invocation) : Silent (invocation.run host) := by
  refine silent_of_run (invocation.launch host) fun workspace => ?_
  obtain ⟨log, ran, _⟩ := invocation.launch_ends host _ workspace rfl
  exact ⟨log, ran⟩

end FixtureRunner.Action
