/-
# Options where only settings are stored

Where there is no file of a project and no variable sets an option, the options
of a run are the defaults with the stored settings laid over them.

## Main definitions

* `World.Settled` - only what is stored sets options, and it fits.

## Main results

* `World.Settled.exists_outcome_resolveOptions` - the options of a run.
* `World.Settled.of_elsewhere` - a world stays settled while only the stored file changes.
-/

import EntryPoint.Proofs.Settings.Preparation
import EntryPoint.Proofs.Settings.Store
import EntryPoint.Settings.Layers

namespace EntryPoint

open Session

/-- The path to the file of the project in the current directory. -/
def World.projectFile (world : World) : Path :=
  (Path.ofNames world.directory).child projectFileName

/-- Only what is stored sets options, and it fits. -/
structure World.Settled (world : World) (directory : Path) (place : List String)
    (settings : Settings) : Prop extends world.Stores directory place settings where
  fit : settings.Fit
  projectless : world.kind? world.projectFile ≠ some .file
  unset : ∀ name ∈ optionVariables.map Prod.fst, world.environment.lookup name = none

variable {world : World} {directory : Path} {place : List String} {settings : Settings}

namespace World

theorem outcome_loadProject (projectless : world.kind? world.projectFile ≠ some .file) :
    outcome loadProject world = (.ok none, world) := by
  unfold loadProject
  rw [outcome_bind_of_ok outcome_directory]
  dsimp only
  rw [outcome_bind_of_ok (outcome_isFile _), if_neg]
  · rfl
  · simpa [projectFile] using projectless

/-- The layer of the environment puts together what its variables set. -/
theorem outcome_environmentLayer : outcome environmentLayer world =
    (.ok (optionVariables.map fun (name, key) =>
      variableLayer key (world.environment.lookup name)).flatten, world) := by
  have layer (entry : String × OptionKey) (_ : entry ∈ optionVariables) :
      outcome (do return variableLayer entry.2 (← Host.environment? entry.1)) world =
        (.ok (variableLayer entry.2 (world.environment.lookup entry.1)), world) :=
    outcome_bind_of_ok (outcome_environment? _)
  unfold environmentLayer
  rw [outcome_bind_of_ok (outcome_mapM layer)]
  rfl

theorem outcome_environmentLayer_of_unset
    (unset : ∀ name ∈ optionVariables.map Prod.fst, world.environment.lookup name = none) :
    outcome environmentLayer world = (.ok [], world) := by
  have silent : (optionVariables.map fun (name, key) =>
      variableLayer key (world.environment.lookup name)).flatten = [] := by
    rw [List.flatten_eq_nil_iff, List.forall_mem_map]
    rintro ⟨name, key⟩ member
    have missing : world.environment.lookup name = none := unset name (List.mem_map_of_mem member)
    dsimp only
    rw [missing, variableLayer]
  rw [outcome_environmentLayer, silent]

/-- The options are what the settings say, and the defaults. -/
theorem Settled.exists_outcome_resolveOptions
    (settled : world.Settled directory place settings) :
    ∃ options, outcome (resolveOptions []) world = (.ok options, world) ∧
      ∀ key : OptionKey,
        options.get key = (settings.lookup key.name).getD (Options.get {} key) := by
  obtain ⟨options, accepted, get⟩ := settled.fit.exists_ofOverrides
  refine ⟨options, ?_, get⟩
  -- No project and no variable adds anything, so the settings are all there is to merge.
  have merged : optionsOf (layered settings.toOverrides [] [] []) = .ok options :=
    (optionsOf_eq_ok_iff (Settings.nodup_toOverrides settled.nodup)).mpr accepted
  unfold resolveOptions
  rw [outcome_bind_of_ok settled.toStores.outcome_loadSettings,
    outcome_bind_of_ok (outcome_loadProject settled.projectless)]
  dsimp only
  rw [outcome_bind_of_ok (outcome_pure []),
    outcome_bind_of_ok (outcome_environmentLayer_of_unset settled.unset), outcome_orStop, merged]

/-! ### Changes elsewhere -/

/-- The streams do not matter. -/
theorem Settled.of_streams (settled : world.Settled directory place settings)
    (input : Except String String) (output diagnostics : String) :
    ({ world with input, output, diagnostics } : World).Settled directory place settings where
  toIsSettingsDirectory :=
    settled.toIsSettingsDirectory.of_directories (fun _ => id) input output diagnostics
  nodup := settled.nodup
  holds := settled.holds
  fit := settled.fit
  projectless := settled.projectless
  unset := settled.unset

theorem isFileName_project : IsFileName projectFileName :=
  ⟨by decide, by decide, by decide⟩

/-- A world stays settled where nothing but the stored file changes. -/
theorem Settled.of_stores (settled : world.Settled directory place settings) {tree : FileTree}
    {next : Settings} (fit : next.Fit)
    (stores : ({ world with tree } : World).Stores directory place next)
    (elsewhere : ∀ other ≠ place ++ ["config.json"], tree.item? other = world.tree.item? other) :
    ({ world with tree } : World).Settled directory place next where
  toStores := stores
  fit := fit
  unset := settled.unset
  projectless := by
    intro file
    -- A project file would have been one before, as only the file of the settings has changed.
    obtain ⟨other, bytes, leads, stands⟩ := World.kind?_eq_file_iff.mp file
    have kept (other : List String) (stands : tree.item? other = some .directory) :
        world.tree.item? other = some .directory := by
      rwa [← elsewhere]
      rintro rfl
      rcases stores.holds with held | ⟨missing, -⟩
      · cases held.symm.trans stands
      · cases missing.symm.trans stands
    obtain ⟨parent, rfl⟩ := isFileName_project.exists_eq_of_locate_child leads
    have apart : parent ++ [projectFileName] ≠ place ++ ["config.json"] := by
      intro same
      have names := (List.append_inj' same rfl).2
      revert names
      decide
    exact settled.projectless (World.kind?_eq_file_iff.mpr ⟨_, bytes,
      FileTree.locate_of_directories kept leads, (elsewhere _ apart).symm.trans stands⟩)

end World

end EntryPoint
