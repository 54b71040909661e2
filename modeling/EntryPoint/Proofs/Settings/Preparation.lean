/-
# What finding the options comes to

The options of a run are found by making the directory of the settings and reading
files. That writes nothing, and it is stopped by a failure of the configuration or
by what the system refuses.

## Main results

* `prepares_loadSettings`, `prepares_loadProject` - what is stored, and the project.
* `prepares_resolveOptions` - the options of a run.
-/

import EntryPoint.Proofs.Options.Overlay
import EntryPoint.Proofs.Session.Preparation
import EntryPoint.Proofs.Settings.Place
import EntryPoint.Settings.Layers

namespace EntryPoint

open Document Session

variable {kinds : List FailureKind}

/-! ### Directories of the program -/

theorem prepares_programDirectory (name : String) (below elsewhere : List String) :
    Prepares kinds (programDirectory name below elsewhere) :=
  .ask fun _ => outcome_programDirectory name below elsewhere

theorem prepares_makeReady (path : Path) : Prepares kinds (makeReady path) :=
  .bind (prepares_makeDirectories path) fun _ => .pure path

/-- To find the file of the settings at most makes the directory that it belongs to. -/
theorem prepares_settingsFile : Prepares kinds settingsFile :=
  .bind (.bind (prepares_programDirectory _ _ _) prepares_makeReady) fun _ => .pure _

theorem prepares_dataDirectory : Prepares kinds dataDirectory :=
  .bind (prepares_programDirectory _ _ _) prepares_makeReady

/-! ### Layers -/

/-- A file that holds no JSON is told as such and stops nothing yet. -/
theorem prepares_readJsonFile (path : Path) : Prepares kinds (readJsonFile path) := by
  refine .bind (prepares_readTextFile path) fun content => ?_
  cases content with
  | error mistake => exact .pure _
  | ok content => exact .pure _

variable (configuration : .configuration ∈ kinds)
include configuration

/-- Settings that are no mapping are a failure of the configuration; missing ones are empty. -/
theorem prepares_loadSettings : Prepares kinds loadSettings := by
  refine .bind prepares_settingsFile fun path => .bind (prepares_isFile path) fun stands => ?_
  split
  · refine .bind (prepares_readJsonFile path) fun content => ?_
    split
    · exact .pure _
    · exact .stop configuration _
  · exact .pure []

/-- The file of a project may be missing, and is read as it stands. -/
theorem prepares_loadProject : Prepares kinds loadProject := by
  refine .bind prepares_directory fun directory => .bind (prepares_isFile _) fun stands => ?_
  split
  · refine .bind (prepares_readJsonFile _) fun content => ?_
    split
    · exact .pure _
    · exact .stop configuration _
    · exact .stop configuration _
  · exact .pure none

theorem stopsAmong_projectLayer (project : List (Value × Value)) :
    StopsAmong kinds (projectLayer project) := by
  unfold projectLayer
  dsimp only
  split
  · exact .ok []
  · split
    · exact .ok _
    · exact .fail configuration _

/-- Options that do not fit are a failure of the configuration. -/
theorem stopsAmong_optionsOf (overrides : Overrides) : StopsAmong kinds (optionsOf overrides) := by
  unfold optionsOf
  split
  · exact .ok _
  · exact .fail configuration _

omit configuration in
/-- Layers that are laid over each other give the options that they are read as. -/
theorem optionsOf_eq_ok_iff {overrides : Overrides} {options : Options}
    (distinct : (overrides.map Prod.fst).Nodup) :
    optionsOf overrides = .ok options ↔ Options.ofOverrides overrides = .ok options := by
  unfold optionsOf
  cases accepted : Options.merge (.overrides overrides) with
  | ok merged =>
    obtain ⟨read, -⟩ := (Options.merge_overrides_eq_ok_iff distinct).mp accepted
    dsimp only
    rw [read, Except.ok.injEq, Except.ok.injEq]
  -- Overrides that were read would have merged.
  | error rejection =>
    refine iff_of_false (fun resolved => by cases resolved) fun read => ?_
    have merged : Options.merge (.overrides overrides) = .ok ⟨options, OptionKey.all⟩ :=
      (Options.merge_overrides_eq_ok_iff distinct).mpr ⟨read, rfl⟩
    cases accepted.symm.trans merged

omit configuration in
/-- The failure names what does not fit. -/
theorem exists_optionsOf_eq_error {overrides : Overrides}
    (distinct : (overrides.map Prod.fst).Nodup) (unfit : ¬overrides.Fit) :
    ∃ rejection : Rejection, optionsOf overrides =
      fail .configuration ("Invalid render options: " ++ rejection.text) := by
  obtain ⟨rejection, rejected⟩ := Options.exists_merge_eq_error distinct unfit
  refine ⟨rejection, ?_⟩
  unfold optionsOf
  rw [rejected]

omit configuration in
theorem prepares_environmentLayer : Prepares kinds environmentLayer :=
  .bind (.mapM fun _ => .bind (prepares_environment? _) fun _ => .pure _) fun _ => .pure _

/-- All layers are read before the options are merged, and none of them is written. -/
theorem prepares_resolveOptions (given : Overrides) : Prepares kinds (resolveOptions given) := by
  refine .bind (prepares_loadSettings configuration) fun stored =>
    .bind (prepares_loadProject configuration) fun document => ?_
  have merged (project : Overrides) : Prepares kinds (environmentLayer >>= fun environment =>
      orStop (optionsOf (layered stored.toOverrides project environment given))) :=
    .bind prepares_environmentLayer fun _ => .orStop (stopsAmong_optionsOf configuration _)
  cases document with
  | none => exact .bind (.pure []) merged
  | some document => exact .bind (.orStop (stopsAmong_projectLayer configuration document)) merged

end EntryPoint
