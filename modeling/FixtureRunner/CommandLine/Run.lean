/-
The program: settings from all sources, discovery, the batch and the report.
-/

import FixtureRunner.Batch.ReportFile
import FixtureRunner.Batch.Run
import FixtureRunner.CommandLine.Options
import FixtureRunner.Config.Load
import FixtureRunner.Discovery.Walk
import FixtureRunner.Log.Filter

namespace FixtureRunner.CommandLine

abbrev Environment := List (String × String)

/-- A failure with what the program was doing, if it says so. -/
structure Fatal where
  during : Option String := none
  failure : Failure
deriving DecidableEq

def Fatal.message (fatal : Fatal) : String :=
  String.intercalate ": " (fatal.during.toList ++ fatal.failure.chain)

abbrev Task := ExceptT Fatal (StateM Workspace)

/-- An action as part of a task, with the words for its failure. -/
def doing {α : Type} (during : Option String) (action : Action α) : Task α :=
  action.run >>= fun result : Except Failure α =>
    match result with
    | .ok value => pure value
    | .error failure => throw { during, failure }

def event (message : String) (fields : List (String × Log.Value)) : Log.Event :=
  { level := .debug, source := .commandLine, message, fields }

/-- The configuration file: the one named, or the nearest one above the root. -/
def configPath (options : Options) (disk : Disk) : Option Path :=
  match options.config with
  | some path => some ⟨path⟩
  | none => Config.findUpwards disk ⟨options.root⟩

def fileSettings (path : Option Path) (compile : Pattern.Compiler := Pattern.compile) :
    Task Settings := do
  match path with
  | none => return {}
  | some path => do
      let settings ←
        doing (some ("load config: " ++ path.text)) (Config.loadSettings path compile)
      doing none (Action.record (event "loaded config" [("config", .plain path.text)]))
      return settings

def loadSettings (options : Options) (environment : Environment)
    (compile : Pattern.Compiler := Pattern.compile) : Task Settings := do
  let disk := (← get).disk
  let fromFile ← fileSettings (configPath options disk) compile
  let settings := fromFile.withEnvironment fun name => environment.lookup name
  return { settings with
    compiler :=
      match options.compiler with
      | none => settings.compiler
      | some program => (Config.resolveFrom (Disk.pathTo disk.here) ⟨program⟩).text
    timeoutMs := options.timeoutMs.or settings.timeoutMs }

def runTask (host : Host) (options : Options) (environment : Environment)
    (compile : Pattern.Compiler := Pattern.compile) : Task Report := do
  let settings ← loadSettings options environment compile
  let root : Path := ⟨options.root⟩
  let fixtures ← doing (some ("discover fixtures under " ++ options.root))
    (Discovery.discover root options.fragments)
  doing none (Action.record (event "selected fixtures"
    [("count", .number fixtures.length), ("mode", .quoted options.mode.name)]))
  let report ← doing none (Batch.runBatch host root fixtures settings options.mode)
  match options.reportOut with
  | none => return report
  | some path => do
      doing (some ("write report: " ++ path)) (report.writeTo ⟨path⟩)
      return report

/-- What a run of the program leaves: its exit code, its two outputs and the disk. -/
structure Finish where
  code : Nat
  stdout : Text
  stderr : Text
  disk : Disk

def exitCode : Except Fatal Report → Nat
  | .error _ => 2
  | .ok report => if 0 < report.failed then 1 else 0

def filterVariable : String := "RUST_LOG"

/-- The filter of the environment if it can be read, else that of the verbosity. -/
def logFilter (options : Options) (environment : Environment) : List Log.Directive :=
  ((environment.lookup filterVariable).bind Log.Filter.parse?).getD
    (Log.Filter.ofVerbosity options.verbose)

def errorOutput (filter : List Log.Directive) (events : List Log.Event)
    (result : Except Fatal Report) : Text :=
  let shown := (events.filter (Log.shows filter)).map Log.Event.line
  let final :=
    match result with
    | .ok _ => []
    | .error fatal => [fatal.message]
  (shown ++ final).flatMap fun line => line.toList ++ ['\n']

def run (host : Host) (arguments : List String) (environment : Environment) (disk : Disk)
    (console : Console := {}) (compile : Pattern.Compiler := Pattern.compile) : Finish :=
  match parse arguments with
  | .error refusal =>
      let text := refusal.message.toList
      if refusal.isInformation then
        { code := 0, stdout := ((console.write text).toOption.getD console).written, stderr := []
          disk }
      else { code := 2, stdout := console.written, stderr := text ++ ['\n'], disk }
  | .ok options =>
      let (result, workspace) := (runTask host options environment compile).run { disk, console }
      { code := exitCode result
        stdout := workspace.console.written
        stderr := errorOutput (logFilter options environment) workspace.log result
        disk := workspace.disk }

end FixtureRunner.CommandLine
