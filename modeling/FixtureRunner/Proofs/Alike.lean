/-
Actions on two workspaces at once.

An action behaves alike on two related disks if it has the same result on both and, should
it succeed, leaves disks that are related again.  What it records plays no part.
-/

import FixtureRunner.Proofs.Workspace

namespace FixtureRunner.Action

variable {α β : Type}

/-- From disks that are related before, the action has one result; the disks it leaves with
a value are related as the value demands. -/
def Alike (Before : Disk → Disk → Prop) (action : Action α) (After : α → Disk → Disk → Prop) :
    Prop :=
  ∀ first second : Workspace, Before first.disk second.disk →
    (action.run second).1 = (action.run first).1 ∧
      ∀ value, (action.run first).1 = .ok value →
        After value (action.run first).2.disk (action.run second).2.disk

namespace Alike

variable {Before Weaker : Disk → Disk → Prop} {Between After Stronger : α → Disk → Disk → Prop}
  {Finally : β → Disk → Disk → Prop} {action : Action α} {next : α → Action β}

theorem bind (begins : Alike Before action Between)
    (goesOn : ∀ value, Alike (Between value) (next value) Finally) :
    Alike Before (action >>= next) Finally := by
  intro first second related
  obtain ⟨sameResult, areRelated⟩ := begins first second related
  rw [run_bind, run_bind]
  cases ranFirst : action.run first with
  | mk result left =>
      cases ranSecond : action.run second with
      | mk other right =>
          rw [ranFirst] at sameResult areRelated
          rw [ranSecond] at sameResult areRelated
          obtain rfl : other = result := sameResult
          cases other with
          | error failure => exact ⟨rfl, nofun⟩
          | ok value => exact goesOn value left right (areRelated value rfl)

theorem mono (alike : Alike Weaker action Stronger)
    (isBefore : ∀ first second, Before first second → Weaker first second)
    (isAfter : ∀ value first second, Stronger value first second → After value first second) :
    Alike Before action After := by
  intro first second related
  obtain ⟨sameResult, areRelated⟩ := alike first second (isBefore _ _ related)
  exact ⟨sameResult, fun value isValue => isAfter _ _ _ (areRelated value isValue)⟩

theorem weaken (alike : Alike Weaker action After)
    (isBefore : ∀ first second, Before first second → Weaker first second) :
    Alike Before action After :=
  alike.mono isBefore fun _ _ _ related => related

theorem strengthen (alike : Alike Before action Stronger)
    (isAfter : ∀ value first second, Stronger value first second → After value first second) :
    Alike Before action After :=
  alike.mono (fun _ _ related => related) isAfter

theorem of_fact {fact : Prop} (alike : fact → Alike Before action After) :
    Alike (fun first second => fact ∧ Before first second) action After :=
  fun first second related => alike related.1 first second related.2

theorem of_pure (value : α)
    (isAfter : ∀ first second, Before first second → After value first second) :
    Alike Before (pure value) After := by
  intro first second related
  refine ⟨rfl, fun other isOther => ?_⟩
  obtain rfl := Except.ok.inj isOther
  exact isAfter _ _ related

theorem of_record (event : Log.Event) : Alike Before (record event) fun _ => Before :=
  fun _ _ related => ⟨rfl, fun _ _ => related⟩

theorem of_test {test : Disk → Bool} {yes no : Action β}
    (isSame : ∀ first second, Before first second → test second = test first)
    (ifYes : Alike (fun first second => Before first second ∧ test first = true) yes Finally)
    (ifNo : Alike (fun first second => Before first second ∧ test first = false) no Finally) :
    Alike Before (Action.disk >>= fun disk => if test disk = true then yes else no) Finally := by
  intro first second related
  rw [run_bind_ok _ _ (run_disk first), run_bind_ok _ _ (run_disk second),
    isSame _ _ related]
  cases answer : test first.disk with
  | false => exact ifNo first second ⟨related, answer⟩
  | true => exact ifYes first second ⟨related, answer⟩

/-! ### Requests -/

variable {path : Path}

theorem of_readBytes
    (isSame : ∀ first second, Before first second → second.read path = first.read path) :
    Alike Before (readBytes path) fun content first second =>
      Before first second ∧ first.read path = .ok content := by
  intro first second related
  rw [run_readBytes, run_readBytes, isSame _ _ related]
  cases isRead : first.disk.read path with
  | error cause => exact ⟨rfl, nofun⟩
  | ok content =>
      refine ⟨rfl, fun other isOther => ?_⟩
      obtain rfl := Except.ok.inj isOther
      exact ⟨related, isRead⟩

theorem of_readText
    (isSame : ∀ first second, Before first second → second.read path = first.read path) :
    Alike Before (readText path) fun _ => Before :=
  (of_readBytes isSame).bind fun _ => .of_pure _ fun _ _ related => related.1

/-- Both requests are granted, or both are refused for one reason. -/
def Answered (Granted : Disk → Disk → Prop) (first second : Except SystemError Disk) : Prop :=
  (∃ left right, first = .ok left ∧ second = .ok right ∧ Granted left right) ∨
    ∃ cause, first = .error cause ∧ second = .error cause

theorem of_writeBytes {content : Bytes} {Granted : Disk → Disk → Prop}
    (answered : ∀ first second, Before first second → Answered Granted (first.write path content)
      (second.write path content)) : Alike Before (writeBytes path content) fun _ => Granted := by
  intro first second related
  rw [run_writeBytes, run_writeBytes]
  rcases answered _ _ related with ⟨left, right, isLeft, isRight, granted⟩ | ⟨cause, isLeft, isRight⟩
  · rw [isLeft, isRight]
    exact ⟨rfl, fun _ _ => granted⟩
  · rw [isLeft, isRight]
    exact ⟨rfl, nofun⟩

theorem of_host {host : Host} {invocation : Invocation} {Left : Disk → Disk → Prop}
    (performed : ∀ first second, Before first second →
      (host invocation.command second).1 = (host invocation.command first).1 ∧
        Left (host invocation.command first).2 (host invocation.command second).2) :
    Alike Before (invocation.run host) fun _ => Left := by
  intro first second related
  obtain ⟨_, ranFirst, _⟩ := invocation.launch_ends host _ first rfl
  obtain ⟨_, ranSecond, _⟩ := invocation.launch_ends host _ second rfl
  rw [ranFirst, ranSecond, Invocation.launch, Invocation.launch]
  by_cases hasNul : invocation.hasNul = true
  · rw [if_pos hasNul, if_pos hasNul]
    exact ⟨rfl, nofun⟩
  · rw [if_neg hasNul, if_neg hasNul]
    obtain ⟨sameResult, areRelated⟩ := performed _ _ related
    cases performedFirst : host invocation.command first.disk with
    | mk result left =>
        cases performedSecond : host invocation.command second.disk with
        | mk other right =>
            rw [performedFirst, performedSecond] at sameResult areRelated
            obtain rfl : other = result := sameResult
            cases other with
            | error cause => exact ⟨rfl, nofun⟩
            | ok performance => exact ⟨rfl, fun _ _ => areRelated⟩

end Alike

end FixtureRunner.Action
