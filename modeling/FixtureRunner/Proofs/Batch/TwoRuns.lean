/-
Running a fixture on two disks that agree.

If the programs behave alike as well, so does the run: it ends in the same way, whatever
stale files there are.  Which of them are left afterwards depends on the outcome.
-/

import FixtureRunner.Proofs.Batch.Course
import FixtureRunner.Proofs.Fixture.Agreement

namespace FixtureRunner.Batch

open FixtureRunner.Action

/-- Both programs of a fixture have the same results on disks that agree, and leave disks
that agree.  The kept files are still there when the compiler has run. -/
structure ActAlike (host : Host) (settings : Settings) (artifacts : Artifacts) (layout : Layout)
    (Seen : Location → Prop) (kept logs : List Role) : Prop where
  compiles : ∀ first second, Agree artifacts layout Seen [.expected, .source] logs first second →
    first.entryAt? (layout.place .generated) = none →
    (host (compilation settings artifacts).command second).1 =
        (host (compilation settings artifacts).command first).1 ∧
      Agree artifacts layout Seen kept logs
        (host (compilation settings artifacts).command first).2
        (host (compilation settings artifacts).command second).2
  compares : ∀ first second, Agree artifacts layout Seen (.generated :: kept) logs first second →
    (host (comparison settings artifacts).command second).1 =
        (host (comparison settings artifacts).command first).1 ∧
      Agree artifacts layout Seen [] logs
        (host (comparison settings artifacts).command first).2
        (host (comparison settings artifacts).command second).2

/-- What is left of the stale files once a fixture is classified: a malformed one is not
touched, and a log is replaced when a step fails. -/
def remaining (stale logs : List Role) : Outcome → List Role
  | .malformed => stale
  | .ok => logs
  | .updated => logs
  | .compileError => []
  | .diffMismatch => []

section Alike

variable {host : Host} {settings : Settings} {mode : RunMode} {artifacts : Artifacts}
  {layout : Layout} {Seen : Location → Prop} {kept logs stale files : List Role}
  (sees : ∀ role, Seen (layout.place role)) (areLogs : ∀ role ∈ logs, role = .errorLog)

include sees areLogs

theorem writeErrorLog_alike (output : ProcessOutput) :
    Alike (Agree artifacts layout Seen files logs) (artifacts.writeErrorLog output)
      fun _ => Agree artifacts layout Seen [] [] := by
  refine (Agree.alike_write (sees .errorLog)
    (fun _ _ same => layout.ne_generated (by decide) (by decide) same) _).strengthen
      fun _ _ _ agree => agree.mono (by simp) fun role => ?_
  simp only [List.mem_filter, decide_eq_true_eq, ne_eq, List.not_mem_nil, iff_false, not_and,
    not_not]
  exact areLogs role

variable (actAlike : ActAlike host settings artifacts layout Seen kept logs)

include actAlike

theorem compare_alike :
    Alike (Agree artifacts layout Seen kept logs) (compare host settings mode artifacts)
      fun outcome first second => (outcome = .updated → mode = .update) ∧
        Agree artifacts layout Seen [] (remaining stale logs outcome) first second := by
  have normalizes : Alike (Agree artifacts layout Seen kept logs)
      (settings.normalizer.normalizeFile artifacts.generated)
      fun _ => Agree artifacts layout Seen (.generated :: kept) logs :=
    settings.normalizer.normalizeFile_alike sees areLogs
  refine normalizes.bind fun _ => ?_
  refine (Alike.of_host actAlike.compares).bind fun compared => ?_
  cases compared.success with
  | true => exact .of_pure _ fun _ _ agree => ⟨nofun, agree⟩
  | false =>
      by_cases isUpdate : mode = .update
      · rw [if_neg (by decide), if_pos isUpdate]
        exact (artifacts.rebuild_alike sees areLogs).bind fun _ =>
          .of_pure _ fun _ _ agree => ⟨fun _ => isUpdate, agree⟩
      · rw [if_neg (by decide), if_neg isUpdate]
        exact (writeErrorLog_alike sees areLogs compared).bind fun _ =>
          .of_pure _ fun _ _ agree => ⟨nofun, agree⟩

theorem compileAndCompare_alike {divided : List Role}
    (covers : ∀ role ∈ divided, role = .generated ∨ role ∈ logs)
    (within : ∀ role ∈ logs, role ∈ divided) :
    Alike (Agree artifacts layout Seen [.expected, .source] divided)
      (compileAndCompare host settings mode artifacts)
      fun outcome first second => (outcome = .updated → mode = .update) ∧
        Agree artifacts layout Seen [] (remaining stale logs outcome) first second := by
  have areOthers : ∀ other ∈ [Role.expected, .source],
      layout.place other ≠ layout.place .generated := by
    intro other member same
    have isDerived : other ≠ .fixture := by
      rintro rfl
      simp at member
    rw [layout.eq_of_place isDerived (by decide) same] at member
    simp at member
  have discards : Alike (Agree artifacts layout Seen [.expected, .source] divided)
      artifacts.discardGenerated fun _ first second =>
        Agree artifacts layout Seen [.expected, .source] logs first second ∧
        first.entryAt? (layout.place .generated) = none := by
    refine (Agree.alike_remove (sees .generated) (by decide) areOthers).strengthen
      fun _ _ _ related => ⟨related.1.mono (by simp) fun role => ?_, related.2⟩
    simp only [List.mem_filter, decide_eq_true_eq, ne_eq]
    constructor
    · rintro ⟨member, isOther⟩
      exact (covers role member).resolve_left isOther
    · intro member
      refine ⟨within role member, ?_⟩
      rintro rfl
      cases areLogs _ member
  refine discards.bind fun _ => ?_
  refine (Alike.of_host fun first second related =>
    actAlike.compiles first second related.1 related.2).bind fun compiled => ?_
  cases compiled.success with
  | false =>
      exact (writeErrorLog_alike sees areLogs compiled).bind fun _ =>
        .of_pure _ fun _ _ agree => ⟨nofun, agree⟩
  | true =>
      refine Alike.of_test (fun first second agree => ?_) ?_ ?_
      · have isSame : second.isFile artifacts.generated = first.isFile artifacts.generated :=
          agree.isFile .generated (sees .generated)
            (layout.isFresh_of_logs areLogs (by decide) (by decide))
        rw [isSame]
      · exact ((writeErrorLog_alike sees areLogs _).weaken fun _ _ related => related.1).bind
          fun _ => .of_pure _ fun _ _ agree => ⟨nofun, agree⟩
      · exact (compare_alike sees areLogs actAlike).weaken fun _ _ related => related.1

variable (covers : ∀ role ∈ stale, role ∈ [Role.source, .expected, .generated] ∨ role ∈ logs)
  (within : ∀ role ∈ logs, role ∈ stale)

include covers within

theorem classify_alike :
    Alike (fun first second => Agree artifacts layout Seen [] stale first second ∧
        second.read artifacts.fixture = first.read artifacts.fixture)
      (classify host settings mode artifacts)
      fun outcome first second => (outcome = .updated → mode = .update) ∧
        Agree artifacts layout Seen [] (remaining stale logs outcome) first second := by
  refine (artifacts.split_alike sees).bind fun result => ?_
  cases result with
  | malformed sections => exact .of_pure _ fun _ _ agree => ⟨nofun, agree⟩
  | written =>
      have coversDivided : ∀ role ∈ (stale.filter (· ≠ .source)).filter (· ≠ .expected),
          role = .generated ∨ role ∈ logs := by
        intro role member
        simp only [List.mem_filter, decide_eq_true_eq, ne_eq] at member
        obtain ⟨⟨isStale, isNoSource⟩, isNoExpected⟩ := member
        exact (covers role isStale).imp_left fun isOne => by simpa [isNoSource, isNoExpected] using isOne
      have withinDivided : ∀ role ∈ logs,
          role ∈ (stale.filter (· ≠ .source)).filter (· ≠ .expected) := by
        intro role member
        obtain rfl := areLogs role member
        simpa using within _ member
      exact compileAndCompare_alike sees areLogs actAlike coversDivided withinDivided

variable (mode) in
theorem runFixture_alike {path : Path} (isArtifacts : artifacts = Artifacts.ofFixture path) :
    Alike (fun first second => Agree artifacts layout Seen [] stale first second ∧
        second.read path = first.read path)
      (runFixture host settings mode path)
      fun outcome first second => (outcome = .updated → mode = .update) ∧
        Agree artifacts layout Seen []
          (if mode.purges && !outcome.isFailure then [] else remaining stale logs outcome)
          first second := by
  subst isArtifacts
  refine (classify_alike sees areLogs actAlike covers within).bind
    fun outcome => ?_
  refine (Alike.of_record _).bind fun _ => .of_fact fun isUpdate => ?_
  by_cases purges : (mode.purges && !outcome.isFailure) = true
  · have areDerived : ∀ role ∈ remaining stale logs outcome, role ∈ Role.derived := by
      intro role member
      have isLog : role ∈ logs := by
        cases outcome with
        | ok => exact member
        | updated => exact member
        | compileError => simp [Outcome.isFailure] at purges
        | diffMismatch => simp [Outcome.isFailure] at purges
        | malformed => simp [Outcome.isFailure] at purges
      rw [areLogs role isLog]
      decide
    rw [if_pos purges]
    refine (Artifacts.purge_alike sees areDerived).bind fun _ => .of_pure _ fun _ _ agree => ?_
    rw [if_pos purges]
    exact ⟨isUpdate, agree⟩
  · rw [if_neg purges]
    refine .of_pure _ fun _ _ agree => ?_
    rw [if_neg purges]
    exact ⟨isUpdate, agree⟩

end Alike

end FixtureRunner.Batch
