import EditImpact.Engine.Basic
import EditImpact.Git.Checkout
import EditImpact.Inventory.Grammars
import EditImpact.Lines.Shortest
import EditImpact.Settings.Bundled

/-!
An engine for a directory on disk, with the settings that the directory holds and the repository that
it is checked out from.
-/

namespace EditImpact

/-- The settings file of a project, below its root. -/
def Settings.projectFile : Path := .ofString ".impactlens/config.yaml"

/-- The settings of a project: what its settings file says, over the defaults. -/
def Settings.ofProject (tools : Settings.Tools) (disk : Files.Disk) (root : Path) :
    Except Settings.LoadProblem Settings :=
  let path := root.join Settings.projectFile
  let files := match disk.read path with
    | .ok text => [(path, text)]
    | .error _ => []
  Settings.load tools files [] []

/-- What the program compares texts with: the parsers that come with it, and shortest patches. -/
def Engine.bundledTools : Engine.Tools := ⟨Inventory.collect, Lines.shortestPatch⟩

structure Project where
  engine : Engine
  disk : Files.Disk
  /-- The repository around the directory, if there is one. -/
  checkout : Option Git.Checkout

namespace Project

def start (disk : Files.Disk) (checkout : Option Git.Checkout) (root : Path) (settings : Settings) :
    Except Failure Project := do
  let real ← disk.fileSystem.real root
  return {
    engine := { tools := Engine.bundledTools, root := real, settings := settings }
    disk := disk
    checkout := (Git.Checkout.discover disk checkout root).toOption }

/-- What an analysis sees: the disk, and version control unless it is switched off. -/
def surroundings (project : Project) : Baseline.Surroundings where
  files := project.disk.fileSystem
  vcs :=
    if project.engine.settings.baseline.useGit then
      project.checkout.map (·.vcs project.disk.realPath)
    else none

end Project

end EditImpact
