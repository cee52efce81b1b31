/-
The compiler, written in a configuration file or on the command line.

A program is seen from the folder of the file or from the working directory.  If the file is in the
working directory, then it makes no difference where the program is written.
-/

import FixtureRunner.Proofs.CommandLine.Precedence
import FixtureRunner.Proofs.Disk.Tree

namespace FixtureRunner.CommandLine

open Config (fileName isPlainProgram loadDocument resolveBeside resolveFrom)

theorem isPlainProgram_iff {program : Path} :
    isPlainProgram program = true ↔ program.isAbsolute = true ∨ program.components.length = 1 := by
  rw [isPlainProgram, Bool.or_eq_true, decide_eq_true_iff]

/-- Only an empty program has no component, so one has more than one or exactly one. -/
theorem resolveFrom_eq {program directory : Path} (isNonempty : program.text ≠ "") :
    resolveFrom directory program =
      if isPlainProgram program then program else directory.join program := by
  obtain ⟨first, rest, areSegments⟩ := List.exists_cons_of_ne_nil program.segments_ne_nil
  have isFilled : 1 ≤ program.components.length := by
    rw [Path.components_of_segments areSegments isNonempty, List.length_cons]
    exact Nat.le_add_left 1 _
  rw [resolveFrom]
  by_cases isPlain : isPlainProgram program = true
  · rw [if_pos isPlain, if_neg]
    rintro ⟨isLong, isRelative⟩
    exact isLong.ne' ((isPlainProgram_iff.mp isPlain).resolve_left isRelative)
  · obtain ⟨isRelative, isLong⟩ := not_or.mp (isPlainProgram_iff.not.mp isPlain)
    rw [if_neg isPlain, if_pos ⟨lt_of_le_of_ne isFilled (Ne.symm isLong), isRelative⟩]

/-- A program is the same one on the command line and in a configuration file of the working
directory, and so is the compiler that is started. -/
theorem resolveFrom_eq_resolveBeside {location : Location} {program : Path}
    (areOrdinary : ∀ name ∈ location, Path.IsOrdinary name) (isNonempty : program.text ≠ "") :
    let directory := Disk.pathTo location
    resolveFrom directory program =
        (if program.isAbsolute ∨ program.components.length = 1 then program
          else directory.join program) ∧
      resolveBeside (directory.join ⟨fileName⟩) program = resolveFrom directory program ∧
      ∀ options environment compile workspace settings later others otherEnvironment otherCompile
          otherWorkspace otherSettings otherLater document,
        options.compiler = some program.text → workspace.disk.here = location →
        (loadSettings options environment compile).run workspace = (.ok settings, later) →
        others.compiler = none → setVariable otherEnvironment "TSTRUN_COMPILER" = none →
        configPath others otherWorkspace.disk = some (directory.join ⟨fileName⟩) →
        (loadDocument (directory.join ⟨fileName⟩)).run otherWorkspace =
          (.ok document, otherWorkspace) →
        document.compiler = some program.text →
        (loadSettings others otherEnvironment otherCompile).run otherWorkspace =
          (.ok otherSettings, otherLater) →
        ∀ source, (settings.compileInvocation source).program =
          (otherSettings.compileInvocation source).program := by
  intro directory
  have isBeside : resolveBeside (directory.join ⟨fileName⟩) program =
      resolveFrom directory program := by
    rw [resolveFrom_eq isNonempty, resolveBeside,
      (Disk.endsNamed_pathTo areOrdinary).parent?_join (by decide)]
  refine ⟨?_, isBeside, ?_⟩
  · rw [resolveFrom_eq isNonempty]
    exact if_congr isPlainProgram_iff rfl rfl
  · intro options environment compile workspace settings later others otherEnvironment otherCompile
      otherWorkspace otherSettings otherLater document isGiven isHere loaded isNotGiven isNotSet
      isPath isLoaded isWritten otherLoaded source
    obtain ⟨_, _, _, isDecided⟩ := uses_decided loaded
    obtain ⟨file, isFile, isUsed, isOtherDecided⟩ := uses_decided otherLoaded
    obtain ⟨used, rfl, isUsedPath⟩ := Option.map_eq_some_iff.mp (isFile.trans isPath)
    have isUsedLoaded := isUsed.isLoaded used rfl
    rw [isUsedPath, isLoaded] at isUsedLoaded
    obtain rfl : document = used.document := Except.ok.inj (Prod.mk.inj isUsedLoaded).1
    change settings.compiler = otherSettings.compiler
    have isResolved : otherSettings.compiler = (resolveBeside used.path program).text := by
      simp [isOtherDecided.compiler, isNotGiven, isNotSet, highest, SourceFile.compiler, isWritten]
    rw [isDecided.compiler_of_option isGiven, isHere, isResolved, isUsedPath, isBeside]

def writtenWorkspace : Workspace :=
  { disk := (Disk.empty ["work"]).put ["work", "tstrun.json"] (.file (Text.toBytes
      "\x7b\"schema_version\": \"tstrun.config@0.1.0\", \"compiler\": \".//cc\"\x7d") false) }

def writtenLoad (options : Options) : Except Fatal Settings × Workspace :=
  (loadSettings options []).run writtenWorkspace

theorem resolveFrom_eq_resolveBeside_written :
    ∃ settings later otherSettings otherLater,
      writtenLoad { compiler := some ".//cc" } = (.ok settings, later) ∧
      writtenLoad {} = (.ok otherSettings, otherLater) ∧
      settings.compiler = otherSettings.compiler := by
  have exists_ok {options : Options} (isOk : (writtenLoad options).1.isOk = true) :
      ∃ settings later, writtenLoad options = (.ok settings, later) := by
    rcases ended : writtenLoad options with ⟨fatal | settings, later⟩
    · rw [ended] at isOk
      cases isOk
    · exact ⟨settings, later, rfl⟩
  obtain ⟨settings, later, loaded⟩ : ∃ settings later,
      writtenLoad { compiler := some ".//cc" } = (.ok settings, later) :=
    exists_ok (by decide +kernel)
  obtain ⟨others, otherLater, otherLoaded⟩ : ∃ settings later,
      writtenLoad {} = (.ok settings, later) := exists_ok (by decide +kernel)
  have isLoaded : (loadDocument ⟨"/work/tstrun.json"⟩).run writtenWorkspace =
      (.ok { schemaVersion := "tstrun.config@0.1.0", compiler := some ".//cc" },
        writtenWorkspace) :=
    Config.run_loadDocument_ok rfl (by decide +kernel) (by decide)
  obtain ⟨_, _, isSame⟩ := @resolveFrom_eq_resolveBeside ["work"] ⟨".//cc"⟩ (by decide) (by decide)
  exact ⟨settings, later, others, otherLater, loaded, otherLoaded,
    isSame _ _ _ _ _ _ _ _ _ _ _ _ _ rfl rfl loaded rfl rfl (by decide) isLoaded rfl otherLoaded
      ⟨""⟩⟩

end FixtureRunner.CommandLine
