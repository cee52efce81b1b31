/-
Finding and loading configuration files.
-/

import FixtureRunner.Config.Load
import FixtureRunner.Proofs.Workspace

namespace FixtureRunner.Config

/-! ### Searching upwards -/

def isConfigured (disk : Disk) (folder : Path) : Bool :=
  disk.isFile (folder.join ⟨fileName⟩)

/-- Where the search starts: at the place to which the path leads, if it leads to one. -/
def searchStart (disk : Disk) (path : Path) : Path :=
  ((disk.canonical path).toOption).getD path

theorem findUpwards_eq (disk : Disk) (path : Path) :
    findUpwards disk path =
      ((upwards (searchStart disk path)).find? (isConfigured disk)).map (·.join ⟨fileName⟩) := by
  rw [findUpwards, List.find?_map]
  rfl

/-! ### Reading a file -/

section Document

variable {path : Path} {workspace : Workspace} {content : Bytes} {document : Document}

theorem run_readBytes_ok (isContent : workspace.disk.read path = .ok content) :
    (Action.readBytes path).run workspace = (.ok content, workspace) := by
  rw [Action.run_readBytes, isContent]

theorem run_loadDocument_ok (isContent : workspace.disk.read path = .ok content)
    (isRead : Document.read content = .ok document) (isCurrent : document.isCurrent = true) :
    (loadDocument path).run workspace = (.ok document, workspace) := by
  rw [loadDocument, Action.run_bind_ok _ _ (run_readBytes_ok isContent)]
  simp only [isRead, isCurrent, if_true]
  rfl

theorem run_loadDocument_error {fault : Json.Fault}
    (isContent : workspace.disk.read path = .ok content)
    (isRead : Document.read content = .error fault) :
    (loadDocument path).run workspace = (.error (.config path (.unreadable fault)), workspace) := by
  rw [loadDocument, Action.run_bind_ok _ _ (run_readBytes_ok isContent)]
  simp only [isRead]
  rfl

theorem run_loadDocument_snd (path : Path) (workspace : Workspace) :
    ((loadDocument path).run workspace).2 = workspace := by
  cases isContent : workspace.disk.read path with
  | error cause =>
      have ran : (Action.readBytes path).run workspace =
          (.error (.access path cause), workspace) := by
        rw [Action.run_readBytes, isContent]
      rw [loadDocument, Action.run_bind_error _ _ ran]
  | ok content =>
      rw [loadDocument, Action.run_bind_ok _ _ (run_readBytes_ok isContent)]
      cases Document.read content with
      | error fault => rfl
      | ok document =>
          dsimp only
          split <;> rfl

end Document

theorem run_loadSettings_eq_ok {path : Path} {compile : Pattern.Compiler}
    {workspace after : Workspace} {settings : Settings}
    (loaded : (loadSettings path compile).run workspace = (.ok settings, after)) :
    ∃ document, (loadDocument path).run workspace = (.ok document, workspace) ∧
      Settings.ofDocument path document compile = .ok settings := by
  obtain ⟨document, between, ran, isSettings⟩ := Action.run_bind_eq_ok _ loaded
  have isSame := run_loadDocument_snd path workspace
  rw [ran] at isSame
  obtain rfl : between = workspace := isSame
  refine ⟨document, ran, ?_⟩
  cases isMade : Settings.ofDocument path document compile with
  | error bad =>
      rw [isMade] at isSettings
      cases (Prod.mk.inj isSettings).1
  | ok made =>
      rw [isMade] at isSettings
      exact congrArg Except.ok (Except.ok.inj (Prod.mk.inj isSettings).1)

end FixtureRunner.Config
