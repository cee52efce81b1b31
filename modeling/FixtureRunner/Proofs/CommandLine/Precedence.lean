/-
Which source decides a setting.

Settings come from the command line, the environment, a configuration file and the standard.  Each
of them is decided by the highest source that gives it, so lower sources can change without being
noticed.
-/

import FixtureRunner.CommandLine.Run
import FixtureRunner.Proofs.Config.Loading

namespace FixtureRunner.CommandLine

open Config (Document fileName isConfigured loadDocument resolveBeside resolveFrom searchStart upwards)

/-! ### Sources -/

/-- The file that is used: the one named, or else the nearest one above the root, if any. -/
inductive Chooses (options : Options) (disk : Disk) : Option Path → Prop where
  | named {name : String} : options.config = some name → Chooses options disk (some ⟨name⟩)
  | nearest {before after : List Path} {folder : Path} : options.config = none →
      upwards (searchStart disk ⟨options.root⟩) = before ++ folder :: after →
      isConfigured disk folder = true → (∀ nearer ∈ before, isConfigured disk nearer = false) →
      Chooses options disk (some (folder.join ⟨fileName⟩))
  | nothing : options.config = none →
      (∀ folder ∈ upwards (searchStart disk ⟨options.root⟩), isConfigured disk folder = false) →
      Chooses options disk none

/-- A configuration file and what it says. -/
structure SourceFile where
  path : Path
  document : Document

/-- The compiler of the file, seen from its folder. -/
def SourceFile.compiler (file : SourceFile) : Option String :=
  file.document.compiler.map fun program => (resolveBeside file.path ⟨program⟩).text

/-- The file is the one that is chosen, and it says what is loaded from it. -/
structure Uses (options : Options) (workspace : Workspace) (file : Option SourceFile) : Prop where
  isChosen : Chooses options workspace.disk (file.map (·.path))
  isLoaded : ∀ used ∈ file,
    (loadDocument used.path).run workspace = (.ok used.document, workspace)

/-- The first that is given. -/
def highest {α : Type} (sources : List (Option α)) : Option α :=
  sources.foldr Option.or none

/-- A variable of the environment that is set to something. -/
def setVariable (environment : Environment) (name : String) : Option String :=
  (environment.lookup name).filter (· ≠ "")

/-- Every setting is what its highest source gives. -/
structure Decided (options : Options) (environment : Environment) (compile : Pattern.Compiler)
    (workingDirectory : Path) (file : Option SourceFile) (settings : Settings) : Prop where
  compiler : settings.compiler =
    (highest [options.compiler.map fun program => (resolveFrom workingDirectory ⟨program⟩).text,
      setVariable environment "TSTRUN_COMPILER", file.bind (·.compiler)]).getD "../saphyr"
  diff : settings.diff =
    (highest [setVariable environment "TSTRUN_DIFF", file.bind (·.document.diff)]).getD "diff"
  timeoutMs : settings.timeoutMs = highest [options.timeoutMs, file.bind (·.document.timeoutMs)]
  compilerArgs : settings.compilerArgs = (file.bind (·.document.compilerArgs)).getD []
  diffArgs : settings.diffArgs = (file.bind (·.document.diffArgs)).getD ["-uwB"]
  maxOutputBytes : settings.maxOutputBytes =
    (file.bind (·.document.maxOutputBytes)).getD (16 * 1024 * 1024)
  normalizer : (file.bind (·.document.normalize)).elim (.ok Normalizer.standard)
    (Normalizer.ofPatterns · compile) = .ok settings.normalizer

/-! ### Tasks -/

section Task

variable {α : Type} {during : Option String} {action : Action α} {value : α}
  {workspace after : Workspace}

theorem run_doing (during : Option String) (action : Action α) :
    (doing during action).run workspace =
      ((action.run workspace).1.mapError fun failure => { during, failure },
        (action.run workspace).2) := by
  have lifted : (monadLift action.run : Task (Except Failure α)).run workspace =
      (.ok (action.run workspace).1, (action.run workspace).2) := rfl
  refine (Action.run_bind_ok _ _ lifted).trans ?_
  cases (action.run workspace).1 <;> rfl

theorem run_doing_eq_ok (ran : (doing during action).run workspace = (.ok value, after)) :
    action.run workspace = (.ok value, after) := by
  rw [run_doing] at ran
  rcases ended : action.run workspace with ⟨failure | found, left⟩
  · rw [ended] at ran
    cases (Prod.mk.inj ran).1
  · rw [ended] at ran
    exact Prod.ext (congrArg Except.ok (Except.ok.inj (Prod.mk.inj ran).1)) (Prod.mk.inj ran).2

theorem run_doing_ok (ran : action.run workspace = (.ok value, after)) :
    (doing during action).run workspace = (.ok value, after) := by
  rw [run_doing, ran]
  rfl

theorem run_doing_error {failure : Failure} (ran : action.run workspace = (.error failure, after)) :
    (doing during action).run workspace = (.error { during, failure }, after) := by
  rw [run_doing, ran]
  rfl

end Task

/-! ### The file alone -/

theorem bind_eq_ok {ε α β : Type} {result : Except ε α} {next : α → Except ε β} {final : β} :
    result >>= next = .ok final ↔ ∃ value, result = .ok value ∧ next value = .ok final := by
  cases result <;> simp [bind, Except.bind]

theorem chooses_configPath (options : Options) (disk : Disk) :
    Chooses options disk (configPath options disk) := by
  cases isNamed : options.config with
  | some name =>
      rw [configPath, isNamed]
      exact .named isNamed
  | none =>
      have isSearch : configPath options disk = Config.findUpwards disk ⟨options.root⟩ := by
        rw [configPath, isNamed]
      rw [isSearch, Config.findUpwards_eq]
      cases isFound : (upwards (searchStart disk ⟨options.root⟩)).find? (isConfigured disk) with
      | none =>
          rw [List.find?_eq_none] at isFound
          exact .nothing isNamed fun folder isThere => by simpa using isFound folder isThere
      | some folder =>
          obtain ⟨isFolder, before, after, areFolders, areOthers⟩ :=
            List.find?_eq_some_iff_append.mp isFound
          exact .nearest isNamed areFolders isFolder fun nearer isThere => by
            simpa using areOthers nearer isThere

section File

variable {compile : Pattern.Compiler} (workingDirectory : Path)

theorem decided_ofDocument {file : SourceFile} {settings : Settings}
    (made : Settings.ofDocument file.path file.document compile = .ok settings) :
    Decided {} [] compile workingDirectory (some file) settings := by
  obtain ⟨path, schemaVersion, compiler, compilerArgs, diff, diffArgs, normalize, timeoutMs,
    maxOutputBytes⟩ := file
  rw [Settings.ofDocument] at made
  cases normalize with
  | none =>
      obtain rfl := Except.ok.inj made
      exact ⟨by cases compiler <;> rfl, by cases diff <;> rfl, by cases timeoutMs <;> rfl, rfl, rfl,
        rfl, rfl⟩
  | some patterns =>
      obtain ⟨normalizer, isMade, isRest⟩ := bind_eq_ok.mp made
      obtain rfl := Except.ok.inj isRest
      exact ⟨by cases compiler <;> rfl, by cases diff <;> rfl, by cases timeoutMs <;> rfl, rfl, rfl,
        rfl, isMade⟩

theorem decided_fileSettings {path : Option Path} {workspace after : Workspace}
    {settings : Settings}
    (ran : (fileSettings path compile).run workspace = (.ok settings, after)) :
    ∃ file : Option SourceFile, file.map (·.path) = path ∧
      (∀ used ∈ file, (loadDocument used.path).run workspace = (.ok used.document, workspace)) ∧
      Decided {} [] compile workingDirectory file settings := by
  cases path with
  | none =>
      obtain rfl : {} = settings := Except.ok.inj (Prod.mk.inj ran).1
      have isStandard : Decided {} [] compile workingDirectory none {} :=
        ⟨rfl, rfl, rfl, rfl, rfl, rfl, rfl⟩
      exact ⟨none, rfl, by simp, isStandard⟩
  | some path =>
      obtain ⟨made, _, loaded, recorded⟩ := Action.run_bind_eq_ok _ ran
      obtain ⟨document, isLoaded, isMade⟩ := Config.run_loadSettings_eq_ok (run_doing_eq_ok loaded)
      obtain ⟨_, _, _, returned⟩ := Action.run_bind_eq_ok _ recorded
      obtain rfl : made = settings := Except.ok.inj (Prod.mk.inj returned).1
      refine ⟨some ⟨path, document⟩, rfl, fun used isThere => ?_, decided_ofDocument _ isMade⟩
      obtain rfl := Option.some.inj isThere
      exact isLoaded

end File

/-! ### All sources -/

theorem uses_decided {options : Options} {environment : Environment} {compile : Pattern.Compiler}
    {workspace later : Workspace} {settings : Settings}
    (loaded : (loadSettings options environment compile).run workspace = (.ok settings, later)) :
    ∃ file, file.map (·.path) = configPath options workspace.disk ∧ Uses options workspace file ∧
      Decided options environment compile (Disk.pathTo workspace.disk.here) file settings := by
  obtain ⟨_, _, got, loaded⟩ := Action.run_bind_eq_ok _ loaded
  obtain ⟨rfl, rfl⟩ : workspace = _ ∧ workspace = _ :=
    ⟨Except.ok.inj (Prod.mk.inj got).1, (Prod.mk.inj got).2⟩
  obtain ⟨fromFile, between, ran, ended⟩ := Action.run_bind_eq_ok _ loaded
  obtain ⟨file, isPath, isLoaded, isDecided⟩ :=
    decided_fileSettings (Disk.pathTo workspace.disk.here) ran
  obtain rfl := Except.ok.inj (Prod.mk.inj ended).1
  -- What the file alone decides is the last source behind the others.
  have isCompiler := isDecided.compiler
  have isDiff := isDecided.diff
  have isTimeout := isDecided.timeoutMs
  simp only [highest, setVariable, List.lookup_nil, List.foldr, Option.map_none, Option.filter_none,
    Option.none_or, Option.or_none] at isCompiler isDiff isTimeout
  refine ⟨file, isPath, ⟨isPath ▸ chooses_configPath options workspace.disk, isLoaded⟩, ?_, ?_, ?_,
    isDecided.compilerArgs, isDecided.diffArgs, isDecided.maxOutputBytes, isDecided.normalizer⟩
  · simp only [highest, List.foldr, Option.or_none, Option.getD_or, ← isCompiler]
    cases options.compiler <;> rfl
  · simp only [highest, List.foldr, Option.or_none, Option.getD_or, ← isDiff]
    rfl
  · simp only [highest, List.foldr, Option.or_none, ← isTimeout]
    rfl

section Highest

variable {options : Options} {environment : Environment} {compile : Pattern.Compiler}
  {workingDirectory : Path} {file : Option SourceFile} {settings : Settings}
  (isDecided : Decided options environment compile workingDirectory file settings)

include isDecided

variable {program : String}

theorem Decided.compiler_of_option (isGiven : options.compiler = some program) :
    settings.compiler = (resolveFrom workingDirectory ⟨program⟩).text := by
  rw [isDecided.compiler, isGiven]
  rfl

theorem Decided.compiler_of_variable (isNotGiven : options.compiler = none)
    (isSet : environment.lookup "TSTRUN_COMPILER" = some program) (isNonempty : program ≠ "") :
    settings.compiler = program := by
  rw [isDecided.compiler, isNotGiven]
  simp [highest, setVariable, isSet, Option.filter, isNonempty]

theorem Decided.diff_of_variable (isSet : environment.lookup "TSTRUN_DIFF" = some program)
    (isNonempty : program ≠ "") : settings.diff = program := by
  rw [isDecided.diff]
  simp [highest, setVariable, isSet, Option.filter, isNonempty]

theorem Decided.timeoutMs_of_option {limit : Nat} (isGiven : options.timeoutMs = some limit) :
    settings.timeoutMs = some limit := by
  rw [isDecided.timeoutMs, isGiven]
  rfl

end Highest

/-- If settings are loaded, then each of them is decided by its highest source, and any other load
in which that source gives the same has the same setting, whatever the lower sources are. -/
theorem loadSettings_precedence {options : Options} {environment : Environment}
    {compile : Pattern.Compiler} {workspace later : Workspace} {settings : Settings}
    (loaded : (loadSettings options environment compile).run workspace = (.ok settings, later)) :
    (∃ file, Uses options workspace file ∧
      Decided options environment compile (Disk.pathTo workspace.disk.here) file settings) ∧
    ∀ otherOptions otherEnvironment otherCompile otherWorkspace otherSettings otherLater,
      (loadSettings otherOptions otherEnvironment otherCompile).run otherWorkspace =
        (.ok otherSettings, otherLater) →
      (∀ program, options.compiler = some program → otherOptions.compiler = some program →
        otherWorkspace.disk.here = workspace.disk.here →
        otherSettings.compiler = settings.compiler) ∧
      (∀ program, options.compiler = none → otherOptions.compiler = none → program ≠ "" →
        environment.lookup "TSTRUN_COMPILER" = some program →
        otherEnvironment.lookup "TSTRUN_COMPILER" = some program →
        otherSettings.compiler = settings.compiler) ∧
      (∀ program, program ≠ "" → environment.lookup "TSTRUN_DIFF" = some program →
        otherEnvironment.lookup "TSTRUN_DIFF" = some program →
        otherSettings.diff = settings.diff) ∧
      (∀ limit, options.timeoutMs = some limit → otherOptions.timeoutMs = some limit →
        otherSettings.timeoutMs = settings.timeoutMs) := by
  obtain ⟨file, _, isUsed, isDecided⟩ := uses_decided loaded
  refine ⟨⟨file, isUsed, isDecided⟩, ?_⟩
  intro otherOptions otherEnvironment _ otherWorkspace otherSettings otherLater otherLoaded
  obtain ⟨_, _, _, isOtherDecided⟩ := uses_decided otherLoaded
  refine ⟨?_, ?_, ?_, ?_⟩
  · intro program isGiven isOtherGiven isSamePlace
    rw [isDecided.compiler_of_option isGiven, isOtherDecided.compiler_of_option isOtherGiven,
      isSamePlace]
  · intro program isNotGiven isNotOtherGiven isNonempty isSet isOtherSet
    rw [isDecided.compiler_of_variable isNotGiven isSet isNonempty,
      isOtherDecided.compiler_of_variable isNotOtherGiven isOtherSet isNonempty]
  · intro program isNonempty isSet isOtherSet
    rw [isDecided.diff_of_variable isSet isNonempty,
      isOtherDecided.diff_of_variable isOtherSet isNonempty]
  · intro limit isGiven isOtherGiven
    rw [isDecided.timeoutMs_of_option isGiven, isOtherDecided.timeoutMs_of_option isOtherGiven]

def layeredDisk : Disk :=
  ((Disk.empty ["work", "cases"]).put ["work", "tstrun.json"] (.file (Text.toBytes
    ("\x7b\"schema_version\": \"tstrun.config@0.1.0\", \"compiler\": \"bin/cc\", " ++
      "\"diff\": \"cmp\", \"timeout_ms\": 9\x7d")) false))

def layeredLoad : Except Fatal Settings × Workspace :=
  (loadSettings { compiler := some "tools/cc" }
    [("TSTRUN_COMPILER", "gcc"), ("TSTRUN_DIFF", "mydiff")]).run { disk := layeredDisk }

theorem loadSettings_precedence_layered :
    ∃ settings later, layeredLoad = (.ok settings, later) ∧
      settings.compiler = "/work/cases/tools/cc" ∧ settings.diff = "mydiff" := by
  have isLoaded : layeredLoad.1.isOk = true := by decide +kernel
  cases isLoad : layeredLoad with
  | mk result later =>
      rw [isLoad] at isLoaded
      cases result with
      | error fatal => cases isLoaded
      | ok settings =>
          obtain ⟨⟨file, _, isDecided⟩, _⟩ := loadSettings_precedence isLoad
          have isCompiler := isDecided.compiler_of_option rfl
          have isDiff := isDecided.diff_of_variable rfl (by decide)
          exact ⟨settings, later, rfl, isCompiler.trans (by decide), isDiff⟩

end FixtureRunner.CommandLine
