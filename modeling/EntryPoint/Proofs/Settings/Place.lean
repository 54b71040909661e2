/-
# The directory of the settings

Where the settings are is settled by the surroundings alone. So once their
directory could be made, asking for the file in it always gives the same path and
changes nothing.

## Main definitions

* `World.programPath` - the path to a directory of the program.
* `World.IsSettingsDirectory` - a path is the one to the directory of the settings.

## Main results

* `exists_isSettingsDirectory` - the directory that was made stands there.
* `World.IsSettingsDirectory.outcome_settingsFile` - asking for the file again.
-/

import EntryPoint.Proofs.Session.Files
import EntryPoint.Settings.Store

namespace EntryPoint

open Session

variable {world after : World} {path : Path} {place : List String}

/-! ### What directories depend on -/

/-- The home of the user. -/
def World.homePath (world : World) : Path :=
  homeOf ((world.environment.lookup "HOME").getD fallbackHome)

/-- The base directory that a variable names, or the one below the home. -/
def World.basePath (world : World) (name : String) (below : List String) : Path :=
  let value := (world.environment.lookup name).getD ""
  if value.isEmpty then below.foldl Path.child world.homePath else .ofString value

/-- The program's directory below a base directory, or elsewhere in the home. -/
def World.programPath (world : World) (name : String) (below elsewhere : List String) : Path :=
  if usesBaseDirectories world.system then (world.basePath name below).child programName
  else elsewhere.foldl Path.child world.homePath

theorem outcome_baseDirectory (name : String) (below : List String) :
    outcome (baseDirectory name below) world = (.ok (world.basePath name below), world) := by
  unfold baseDirectory World.basePath
  rw [outcome_bind_of_ok (outcome_environment? name)]
  dsimp only
  split <;> rfl

theorem outcome_programDirectory (name : String) (below elsewhere : List String) :
    outcome (programDirectory name below elsewhere) world =
      (.ok (world.programPath name below elsewhere), world) := by
  unfold programDirectory World.programPath
  rw [outcome_bind_of_ok outcome_system]
  split
  · rw [outcome_bind_of_ok (outcome_baseDirectory name below), outcome_pure]
  · rfl

/-- The directories of the program do not depend on the files and the streams. -/
theorem exists_programDirectory (name : String) (below elsewhere : List String) (world : World) :
    ∃ directory, ∀ tree input output diagnostics,
      outcome (programDirectory name below elsewhere)
          { world with tree, input, output, diagnostics } =
        (.ok directory, { world with tree, input, output, diagnostics }) :=
  ⟨world.programPath name below elsewhere, fun _ _ _ _ =>
    outcome_programDirectory name below elsewhere⟩

theorem concernsFiles_programDirectory (name : String) (below elsewhere : List String) :
    ConcernsFiles (programDirectory name below elsewhere) := fun world =>
  have ⟨directory, asked⟩ := exists_programDirectory name below elsewhere world
  ⟨.ok directory, world.tree, asked world.tree⟩

theorem concernsFiles_settingsDirectory : ConcernsFiles settingsDirectory :=
  .bind (concernsFiles_programDirectory _ _ _) fun path =>
    .bind (concernsFiles_makeDirectoriesFrom path.root path.names.reverse) fun _ => .pure path

/-- Where the settings are does not depend on the streams. -/
theorem concernsFiles_settingsFile : ConcernsFiles settingsFile :=
  .bind concernsFiles_settingsDirectory fun _ => .pure _

/-! ### The directory of the settings -/

/-- A path is the one to the directory of the settings, and the directory stands at a place. -/
structure World.IsSettingsDirectory (world : World) (directory : Path) (place : List String) :
    Prop extends world.IsDirectory directory place where
  asked : outcome (programDirectory "XDG_CONFIG_HOME" [".config"] ["." ++ programName]) world =
    (.ok directory, world)

namespace World.IsSettingsDirectory

variable {directory : Path}

/-- The directory is found again as long as no directory vanishes. -/
theorem of_directories (settled : world.IsSettingsDirectory directory place) {tree : FileTree}
    (kept : ∀ place, world.tree.item? place = some .directory → tree.item? place = some .directory)
    (input : Except String String) (output diagnostics : String) :
    ({ world with tree, input, output, diagnostics } : World).IsSettingsDirectory directory
      place := by
  -- Where the settings are is told by the environment, whatever the tree and the streams are.
  obtain ⟨path, asked⟩ :=
    exists_programDirectory "XDG_CONFIG_HOME" [".config"] ["." ++ programName] world
  obtain ⟨⟨leads, stands⟩, found⟩ := settled
  cases (asked world.tree world.input world.output world.diagnostics).symm.trans found
  exact ⟨⟨FileTree.locate_of_directories kept leads, kept _ stands⟩, asked _ _ _ _⟩

theorem outcome_settingsDirectory (settled : world.IsSettingsDirectory directory place) :
    outcome settingsDirectory world = (.ok directory, world) := by
  unfold settingsDirectory makeReady
  rw [outcome_bind_of_ok settled.asked,
    outcome_bind_of_ok settled.toIsDirectory.outcome_makeDirectories]
  rfl

/-- A directory that stands is found as it is, and nothing is made. -/
theorem outcome_settingsFile (settled : world.IsSettingsDirectory directory place) :
    outcome settingsFile world = (.ok (directory.child "config.json"), world) := by
  unfold settingsFile
  rw [outcome_bind_of_ok settled.outcome_settingsDirectory]
  rfl

end World.IsSettingsDirectory

/-- Once the file of the settings could be asked for, its directory stands there. -/
theorem exists_isSettingsDirectory (made : outcome settingsFile world = (.ok path, after)) :
    ∃ directory place, path = directory.child "config.json" ∧
      after.IsSettingsDirectory directory place := by
  obtain ⟨directory, asked⟩ :=
    exists_programDirectory "XDG_CONFIG_HOME" [".config"] ["." ++ programName] world
  obtain ⟨result, tree, changed⟩ :=
    concernsFiles_makeDirectoriesFrom directory.root directory.names.reverse world
  have second : outcome (makeDirectories directory) world = (result, { world with tree }) :=
    changed world.input world.output world.diagnostics
  -- The directory is asked for first and made ready then, and only that can fail.
  have ready : outcome settingsFile world =
      (result.map fun _ => directory.child "config.json", { world with tree }) := by
    unfold settingsFile settingsDirectory makeReady
    rw [outcome_bind, outcome_bind_of_ok (asked world.tree world.input world.output
      world.diagnostics), outcome_bind, second]
    cases result <;> rfl
  cases result with
  | error fault => cases ready.symm.trans made
  | ok =>
    cases ready.symm.trans made
    obtain ⟨place, standing⟩ := exists_isDirectory_of_makeDirectories second
    exact ⟨directory, place, rfl, standing, asked _ _ _ _⟩

end EntryPoint
