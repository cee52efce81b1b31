/-
What actions do to a workspace, step by step.

Each step is an equation between the workspace before and the pair of its result and the
workspace it leaves, so a run is followed by rewriting.
-/

import FixtureRunner.Process.Host

namespace FixtureRunner

/-- The command line that an event says is being started. -/
def Log.Event.startedCommand? (event : Log.Event) : Option Log.Value :=
  if event.source = .process ∧ event.message = "invoking" then event.fields.lookup "command"
  else none

/-- The command lines that were started, in order. -/
def Log.startedCommands (events : List Log.Event) : List Log.Value :=
  events.filterMap Log.Event.startedCommand?

namespace Action

variable {α β : Type} (workspace : Workspace)

section Bind

variable {ε : Type}

theorem run_bind (action : ExceptT ε (StateM Workspace) α)
    (next : α → ExceptT ε (StateM Workspace) β) :
    (action >>= next).run workspace =
      match action.run workspace with
      | (.ok value, after) => (next value).run after
      | (.error failure, after) => (.error failure, after) := by
  have unfolded : (action >>= next).run workspace =
      ExceptT.bindCont next (action.run workspace).1 (action.run workspace).2 := rfl
  rw [unfolded]
  cases action.run workspace with
  | mk result after =>
      cases result with
      | ok value => rfl
      | error failure => rfl

variable {action : ExceptT ε (StateM Workspace) α} {value : α} {after : Workspace}

theorem run_bind_ok (next : α → ExceptT ε (StateM Workspace) β)
    (ran : action.run workspace = (.ok value, after)) :
    (action >>= next).run workspace = (next value).run after := by
  rw [run_bind, ran]

theorem run_bind_error {failure : ε} (next : α → ExceptT ε (StateM Workspace) β)
    (ran : action.run workspace = (.error failure, after)) :
    (action >>= next).run workspace = (.error failure, after) := by
  rw [run_bind, ran]

theorem run_bind_eq_ok {next : α → ExceptT ε (StateM Workspace) β} {result : β}
    (ran : (action >>= next).run workspace = (.ok result, after)) :
    ∃ value between, action.run workspace = (.ok value, between) ∧
      (next value).run between = (.ok result, after) := by
  rw [run_bind] at ran
  cases first : action.run workspace with
  | mk outcome between =>
      rw [first] at ran
      cases outcome with
      | ok value => exact ⟨value, between, rfl, ran⟩
      | error failure => cases (Prod.mk.inj ran).1

end Bind

theorem run_pure (value : α) : (pure value : Action α).run workspace = (.ok value, workspace) := rfl

theorem run_record (event : Log.Event) :
    (record event).run workspace =
      (.ok (), { workspace with log := workspace.log ++ [event] }) := rfl

theorem run_disk : (disk : Action Disk).run workspace = (.ok workspace.disk, workspace) := rfl

theorem run_eq_of_result {action : Action α} {result : Except Failure α}
    (isResult : (action.run workspace).1 = result) :
    action.run workspace = (result, (action.run workspace).2) :=
  Prod.ext isResult rfl

theorem run_emit (line : String) :
    (emit line).run workspace =
      ((match (workspace.console.writeLine line.toList).1 with
        | none => .ok ()
        | some cause => .error (.access consolePath cause)),
        { workspace with console := (workspace.console.writeLine line.toList).2 }) := by
  cases written : workspace.console.writeLine line.toList with
  | mk refusal console =>
      have unfolded : (emit line).run workspace =
          (match (workspace.console.writeLine line.toList).1 with
            | none => pure ()
            | some cause => throw (.access consolePath cause) : Action Unit).run
            { workspace with console := (workspace.console.writeLine line.toList).2 } := rfl
      rw [unfolded, written]
      cases refusal <;> rfl

theorem run_emit_unlimited (isUnlimited : workspace.console.lineLimit = none) (line : String) :
    ∃ written, (emit line).run workspace =
      (.ok (), { workspace with console := { workspace.console with written := written } }) := by
  have isOpen (written : Text) :
      { workspace.console with written := written : Console }.isClosed = false := by
    simp [Console.isClosed, isUnlimited]
  have isOpenFirst : workspace.console.isClosed = false := isOpen workspace.console.written
  refine ⟨workspace.console.written ++ line.toList ++ ['\n'], ?_⟩
  rw [run_emit]
  simp [Console.writeLine, Console.write, Console.append, isOpenFirst, isOpen]

/-! ### Requests to the disk -/

theorem run_readBytes (path : Path) :
    (readBytes path).run workspace =
      match workspace.disk.read path with
      | .ok content => (.ok content, workspace)
      | .error cause => (.error (.access path cause), workspace) := by
  rw [readBytes, run_bind_ok _ _ (run_disk workspace)]
  cases workspace.disk.read path <;> rfl

theorem run_readText (path : Path) :
    (readText path).run workspace =
      match workspace.disk.read path with
      | .ok content => (.ok (Text.decode content), workspace)
      | .error cause => (.error (.access path cause), workspace) := by
  rw [readText, run_bind, run_readBytes]
  cases workspace.disk.read path <;> rfl

variable {path : Path} {after : Workspace}

theorem run_readText_eq_ok {text : Text} (ran : (readText path).run workspace = (.ok text, after)) :
    after = workspace ∧ ∃ content, workspace.disk.read path = .ok content ∧
      Text.decode content = text := by
  rw [run_readText] at ran
  cases isRead : workspace.disk.read path with
  | error cause =>
      rw [isRead] at ran
      cases (Prod.mk.inj ran).1
  | ok content =>
      rw [isRead] at ran
      obtain ⟨isText, isAfter⟩ := Prod.mk.inj ran
      exact ⟨isAfter.symm, content, rfl, Except.ok.inj isText⟩

theorem run_writeBytes (path : Path) (content : Bytes) :
    (writeBytes path content).run workspace =
      match workspace.disk.write path content with
      | .ok disk => (.ok (), { workspace with disk })
      | .error cause => (.error (.access path cause), workspace) := by
  rw [writeBytes, run_bind_ok _ _ (run_disk workspace), run_bind]
  cases workspace.disk.write path content <;> rfl

theorem run_writeBytes_eq_ok {content : Bytes} {done : Unit}
    (ran : (writeBytes path content).run workspace = (.ok done, after)) :
    workspace.disk.write path content = .ok after.disk := by
  rw [run_writeBytes] at ran
  cases isWritten : workspace.disk.write path content with
  | error cause =>
      rw [isWritten] at ran
      cases (Prod.mk.inj ran).1
  | ok disk =>
      rw [isWritten] at ran
      obtain ⟨_, rfl⟩ := Prod.mk.inj ran
      rfl

theorem run_removeIfPresent (path : Path) :
    (removeIfPresent path).run workspace =
      match workspace.disk.remove path with
      | .ok disk => (.ok (), { workspace with disk })
      | .error cause =>
          if cause = .missing then (.ok (), workspace)
          else (.error (.access path cause), workspace) := by
  rw [removeIfPresent, run_bind_ok _ _ (run_disk workspace)]
  cases workspace.disk.remove path with
  | ok disk => rfl
  | error cause =>
      by_cases isMissing : cause = .missing
      · simp only [isMissing, if_true]
        rfl
      · simp only [isMissing, if_false]
        rfl

/-! ### What is seen of an action -/

/-- From every workspace with a disk the action ends with a result, leaves a disk and has started
some programs.  It writes nothing to the console. -/
def Ends (action : Action α) (before : Disk) (result : Except Failure α) (left : Disk)
    (started : List Invocation) : Prop :=
  ∀ workspace : Workspace, workspace.disk = before →
    ∃ log, action.run workspace = (result, { workspace with disk := left, log := log }) ∧
      Log.startedCommands log =
        Log.startedCommands workspace.log ++ started.map fun invocation => .plain invocation.display

section Ends

variable {workspace} {action : Action α} {next : α → Action β} {before left final : Disk}
  {first second : List Invocation} {value : α} {result : Except Failure β}

theorem Ends.bind (begins : action.Ends before (.ok value) left first)
    (goesOn : (next value).Ends left result final second) :
    (action >>= next).Ends before result final (first ++ second) := by
  intro workspace isBefore
  obtain ⟨log, ran, started⟩ := begins workspace isBefore
  obtain ⟨finalLog, ranOn, startedOn⟩ := goesOn { workspace with disk := left, log := log } rfl
  refine ⟨finalLog, ?_, ?_⟩
  · rw [run_bind_ok _ _ ran, ranOn]
  · rw [startedOn, started, List.map_append, List.append_assoc]

theorem Ends.bind_later (begins : action.Ends before (.ok value) left [])
    (goesOn : (next value).Ends left result final second) :
    (action >>= next).Ends before result final second :=
  begins.bind goesOn

theorem Ends.bind_earlier (begins : action.Ends before (.ok value) left first)
    (goesOn : (next value).Ends left result final []) :
    (action >>= next).Ends before result final first := by
  rw [← List.append_nil first]
  exact begins.bind goesOn

theorem Ends.bind_error {failure : Failure}
    (stops : action.Ends before (.error failure) left first) :
    (action >>= next).Ends before (.error failure) left first := by
  intro workspace isBefore
  obtain ⟨log, ran, started⟩ := stops workspace isBefore
  exact ⟨log, run_bind_error _ _ ran, started⟩

theorem Ends.eq_of_run {result other : Except Failure α} {after : Workspace}
    (ends : action.Ends workspace.disk result left first)
    (ran : action.run workspace = (other, after)) :
    other = result ∧ after.disk = left ∧
      Log.startedCommands after.log =
        Log.startedCommands workspace.log ++ first.map fun invocation => .plain invocation.display := by
  obtain ⟨log, ranAgain, started⟩ := ends workspace rfl
  rw [ran] at ranAgain
  obtain ⟨rfl, rfl⟩ := Prod.mk.inj ranAgain
  exact ⟨rfl, rfl, started⟩

theorem ends_of_run {result : Except Failure α}
    (runs : ∀ workspace : Workspace, workspace.disk = before →
      action.run workspace = (result, { workspace with disk := left })) :
    action.Ends before result left [] :=
  fun workspace isBefore => ⟨workspace.log, runs workspace isBefore, by simp⟩

theorem ends_pure (value : α) : (pure value : Action α).Ends before (.ok value) before [] := by
  refine ends_of_run ?_
  rintro workspace rfl
  rfl

theorem ends_throw (failure : Failure) :
    (throw failure : Action α).Ends before (.error failure) before [] := by
  refine ends_of_run ?_
  rintro workspace rfl
  rfl

theorem ends_record {event : Log.Event} (isOther : event.startedCommand? = none) :
    (record event).Ends before (.ok ()) before [] := by
  rintro workspace rfl
  exact ⟨_, run_record workspace event, by simp [Log.startedCommands, isOther]⟩

theorem ends_disk : disk.Ends before (.ok before) before [] := by
  refine ends_of_run ?_
  rintro workspace rfl
  rfl

theorem ends_readBytes {content : Bytes} (isRead : before.read path = .ok content) :
    (readBytes path).Ends before (.ok content) before [] := by
  refine ends_of_run ?_
  rintro workspace rfl
  rw [run_readBytes, isRead]

theorem ends_readText {content : Bytes} (isRead : before.read path = .ok content) :
    (readText path).Ends before (.ok (Text.decode content)) before [] :=
  (ends_readBytes isRead).bind_later (ends_pure _)

theorem ends_writeBytes {content : Bytes} (isWritten : before.write path content = .ok left) :
    (writeBytes path content).Ends before (.ok ()) left [] := by
  refine ends_of_run ?_
  rintro workspace rfl
  rw [run_writeBytes, isWritten]

section Refused

variable {cause : SystemError}

theorem ends_readText_error (isRefused : before.read path = .error cause) :
    (readText path).Ends before (.error (.access path cause)) before [] := by
  refine ends_of_run ?_
  rintro workspace rfl
  rw [run_readText, isRefused]

theorem ends_writeBytes_error {content : Bytes}
    (isRefused : before.write path content = .error cause) :
    (writeBytes path content).Ends before (.error (.access path cause)) before [] := by
  refine ends_of_run ?_
  rintro workspace rfl
  rw [run_writeBytes, isRefused]

end Refused

end Ends

end Action

/-! ### Programs -/

namespace Invocation

variable (host : Host) (invocation : Invocation)

/-- The program was started on a disk, and left another. -/
structure Ran (disk : Disk) (output : ProcessOutput) (left : Disk) : Prop where
  hasNoNul : invocation.hasNul = false
  performed : ∃ performance, host invocation.command disk = (.ok performance, left) ∧
    output = invocation.output performance

/-- The program could not be started, or could not be waited for. -/
inductive Refused (disk : Disk) : Disk → Prop
  | unsendable (hasNul : invocation.hasNul = true) : Refused disk disk
  | unperformed {error : ProcessError} {left : Disk} (hasNoNul : invocation.hasNul = false)
      (isRefused : host invocation.command disk = (.error error, left)) : Refused disk left

section Ran

variable {host} {invocation} {disk left other : Disk} {output another : ProcessOutput}

theorem Ran.unique (first : invocation.Ran host disk output left)
    (second : invocation.Ran host disk another other) : another = output ∧ other = left := by
  obtain ⟨performance, isPerformed, rfl⟩ := first.performed
  obtain ⟨again, isPerformedAgain, rfl⟩ := second.performed
  rw [isPerformed] at isPerformedAgain
  obtain ⟨isSame, rfl⟩ := Prod.mk.inj isPerformedAgain
  obtain rfl := Except.ok.inj isSame
  exact ⟨rfl, rfl⟩

theorem Ran.not_refused (ran : invocation.Ran host disk output left)
    (refused : invocation.Refused host disk other) : False := by
  obtain ⟨performance, isPerformed, _⟩ := ran.performed
  cases refused with
  | unsendable hasNul =>
      rw [ran.hasNoNul] at hasNul
      cases hasNul
  | unperformed hasNoNul isRefused =>
      rw [isPerformed] at isRefused
      cases (Prod.mk.inj isRefused).1

end Ran

private theorem ends_note (disk : Disk) (level : Log.Level) (message : String)
    (fields : List (String × Log.Value)) (isOther : message ≠ "invoking") :
    (Action.record (invocation.event level message fields)).Ends disk (.ok ()) disk [] :=
  Action.ends_record (by simp [Log.Event.startedCommand?, event, isOther])

private theorem ends_notes (disk : Disk) (output : ProcessOutput) :
    (do
      if output.timedOut then
        Action.record (invocation.event .warn "killed after timeout" [])
      if output.stdoutTruncated || output.stderrTruncated then
        Action.record (invocation.event .warn "captured output truncated" [])
      Action.record
        (invocation.event .debug "exited" [("exit_status", .number output.exitStatus)])
      return output : Action ProcessOutput).Ends disk (.ok output) disk [] := by
  have ends_exited :
      (do
        Action.record
          (invocation.event .debug "exited" [("exit_status", .number output.exitStatus)])
        return output : Action ProcessOutput).Ends disk (.ok output) disk [] :=
    (invocation.ends_note disk _ _ _ (by decide)).bind_later (Action.ends_pure output)
  have ends_truncated :
      (do
        if output.stdoutTruncated || output.stderrTruncated then
          Action.record (invocation.event .warn "captured output truncated" [])
        Action.record
          (invocation.event .debug "exited" [("exit_status", .number output.exitStatus)])
        return output : Action ProcessOutput).Ends disk (.ok output) disk [] := by
    cases output.stdoutTruncated || output.stderrTruncated with
    | false => exact ends_exited
    | true => exact (invocation.ends_note disk _ _ _ (by decide)).bind_later ends_exited
  cases output.timedOut with
  | false => exact ends_truncated
  | true => exact (invocation.ends_note disk _ _ _ (by decide)).bind_later ends_truncated

/-- What comes of starting the program on a disk: its output, or why there is none, and the
disk that is left. -/
def launch (disk : Disk) : Except Failure ProcessOutput × Disk :=
  if invocation.hasNul then
    (.error (.launch invocation.program (.start .nulInCommand)), disk)
  else
    match host invocation.command disk with
    | (.error cause, left) => (.error (.launch invocation.program cause), left)
    | (.ok performance, left) => (.ok (invocation.output performance), left)

theorem launch_ends (disk : Disk) :
    (invocation.run host).Ends disk (invocation.launch host disk).1
      (invocation.launch host disk).2 [invocation] := by
  have invokes : (Action.record (invocation.event .debug "invoking" [])).Ends disk (.ok ()) disk
      [invocation] := by
    rintro workspace rfl
    refine ⟨_, Action.run_record workspace _, ?_⟩
    simp [Log.startedCommands, Log.Event.startedCommand?, event]
  unfold run launch
  refine invokes.bind_earlier ?_
  by_cases hasNul : invocation.hasNul = true
  · rw [if_pos hasNul, if_pos hasNul]
    exact Action.ends_throw _
  · rw [if_neg hasNul, if_neg hasNul]
    refine Action.ends_disk.bind_later ?_
    cases performed : host invocation.command disk with
    | mk result left =>
        have sets : (Action.setDisk left).Ends disk (.ok ()) left [] :=
          Action.ends_of_run fun _ _ => rfl
        refine sets.bind_later ?_
        cases result with
        | error cause => exact Action.ends_throw _
        | ok performance => exact invocation.ends_notes left _

theorem run_ends (disk : Disk) :
    (∃ output left, invocation.Ran host disk output left ∧
      (invocation.run host).Ends disk (.ok output) left [invocation]) ∨
    (∃ failure left, invocation.Refused host disk left ∧
      (invocation.run host).Ends disk (.error failure) left [invocation]) := by
  have ends := invocation.launch_ends host disk
  unfold launch at ends
  by_cases hasNul : invocation.hasNul = true
  · rw [if_pos hasNul] at ends
    exact Or.inr ⟨_, _, .unsendable hasNul, ends⟩
  · have hasNoNul : invocation.hasNul = false := by simpa using hasNul
    rw [if_neg hasNul] at ends
    cases performed : host invocation.command disk with
    | mk result left =>
        rw [performed] at ends
        cases result with
        | error cause => exact Or.inr ⟨_, _, .unperformed hasNoNul performed, ends⟩
        | ok performance =>
            exact Or.inl ⟨_, _, ⟨hasNoNul, performance, performed, rfl⟩, ends⟩

end Invocation

end FixtureRunner
