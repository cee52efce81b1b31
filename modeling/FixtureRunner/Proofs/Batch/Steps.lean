/-
Properties that a run of a fixture has from its steps.

Such a property passes from the parts of an action to the whole.  A run then has it as soon as its
requests have it: those at derived files, new contents for the fixture, and the two programs.
-/

import FixtureRunner.Proofs.Batch.Course

namespace FixtureRunner

namespace Action

/-- A property of actions that passes from parts to the whole, and that an action has which only
looks or takes notes. -/
structure Composes (Has : {α : Type} → Action α → Prop) : Prop where
  pure : ∀ {α : Type} (value : α), Has (pure value : Action α)
  bind : ∀ {α β : Type} {action : Action α} {next : α → Action β}, Has action →
    (∀ value, Has (next value)) → Has (action >>= next)
  disk : Has disk
  record : ∀ event, Has (record event)
  readBytes : ∀ path, Has (readBytes path)

section Composes

variable {Has : {α : Type} → Action α → Prop} (composes : Composes Has)

include composes

theorem Composes.readText (path : Path) : Has (readText path) :=
  composes.bind (composes.readBytes path) fun _ => composes.pure _

theorem Composes.forM {β : Type} {items : List β} {action : β → Action PUnit}
    (each : ∀ item ∈ items, Has (action item)) : Has (items.forM action) := by
  induction items with
  | nil => exact composes.pure PUnit.unit
  | cons item rest ih =>
      refine composes.bind (each item (by simp)) fun _ => ?_
      exact ih fun other member => each other (List.mem_cons_of_mem _ member)

end Composes

end Action

open FixtureRunner.Action

/-- Requests at the derived files of the fixture have a property. -/
structure Artifacts.Upkeep (Has : {α : Type} → Action α → Prop) (artifacts : Artifacts) : Prop
    extends Composes Has where
  writes : ∀ path ∈ artifacts.derived, ∀ content, Has (writeBytes path content)
  removes : ∀ path ∈ artifacts.derived, Has (removeIfPresent path)

namespace Artifacts.Upkeep

variable {Has : {α : Type} → Action α → Prop} {artifacts : Artifacts}
  (upkeep : artifacts.Upkeep Has)

include upkeep

theorem split : Has artifacts.split := by
  refine upkeep.bind (upkeep.readText artifacts.fixture) fun text => ?_
  split
  · refine upkeep.bind (upkeep.writes artifacts.source (by simp [derived]) _) fun _ => ?_
    refine upkeep.bind (upkeep.writes artifacts.expected (by simp [derived]) _) fun _ => ?_
    exact upkeep.bind (upkeep.record _) fun _ => upkeep.pure _
  · exact upkeep.bind (upkeep.record _) fun _ => upkeep.pure _

theorem purge : Has artifacts.purge :=
  upkeep.bind (upkeep.forM upkeep.removes) fun _ => upkeep.record _

theorem normalize (normalizer : Normalizer) :
    Has (normalizer.normalizeFile artifacts.generated) := by
  refine upkeep.bind (upkeep.readBytes artifacts.generated) fun raw => ?_
  simp only
  split
  · exact upkeep.pure false
  · refine upkeep.bind (upkeep.writes artifacts.generated (by simp [derived]) _) fun _ => ?_
    exact upkeep.bind (upkeep.record _) fun _ => upkeep.pure true

theorem discardGenerated : Has artifacts.discardGenerated :=
  upkeep.removes artifacts.generated (by simp [derived])

theorem writeErrorLog (output : ProcessOutput) : Has (artifacts.writeErrorLog output) :=
  upkeep.writes artifacts.errorLog (by simp [derived]) _

end Artifacts.Upkeep

namespace Batch

/-- All requests in a run of the fixture have a property. -/
structure Requests (Has : {α : Type} → Action α → Prop) (host : Host) (settings : Settings)
    (artifacts : Artifacts) : Prop extends artifacts.Upkeep Has where
  refills : ∀ content, Has (writeBytes artifacts.fixture content)
  compiles : Has ((compilation settings artifacts).run host)
  compares : Has ((comparison settings artifacts).run host)

namespace Requests

variable {Has : {α : Type} → Action α → Prop} {host : Host} {settings : Settings}
  {artifacts : Artifacts} (requests : Requests Has host settings artifacts)

include requests

theorem rebuild : Has artifacts.rebuild := by
  refine requests.bind (requests.readText artifacts.source) fun source => ?_
  refine requests.bind (requests.readText artifacts.generated) fun generated => ?_
  exact requests.bind (requests.refills _) fun _ => requests.record _

theorem compare (mode : RunMode) : Has (compare host settings mode artifacts) := by
  refine requests.bind (requests.normalize settings.normalizer) fun _ => ?_
  refine requests.bind requests.compares fun compared => ?_
  split
  · exact requests.pure _
  · split
    · exact requests.bind requests.rebuild fun _ => requests.pure _
    · exact requests.bind (requests.writeErrorLog _) fun _ => requests.pure _

theorem compileAndCompare (mode : RunMode) :
    Has (compileAndCompare host settings mode artifacts) := by
  refine requests.bind requests.discardGenerated fun _ => ?_
  refine requests.bind requests.compiles fun compiled => ?_
  split
  · exact requests.bind (requests.writeErrorLog _) fun _ => requests.pure _
  · refine requests.bind requests.disk fun disk => ?_
    split
    · exact requests.bind (requests.writeErrorLog _) fun _ => requests.pure _
    · exact requests.compare mode

theorem classify (mode : RunMode) : Has (classify host settings mode artifacts) := by
  refine requests.bind requests.split fun result => ?_
  cases result with
  | malformed _ => exact requests.pure _
  | written => exact requests.compileAndCompare mode

omit requests in
theorem runFixture {path : Path} (requests : Requests Has host settings (Artifacts.ofFixture path))
    (mode : RunMode) : Has (runFixture host settings mode path) := by
  refine requests.bind (requests.classify mode) fun outcome => ?_
  refine requests.bind (requests.record _) fun _ => ?_
  split
  · exact requests.bind requests.purge fun _ => requests.pure outcome
  · exact requests.pure outcome

end Requests

end Batch

end FixtureRunner
