/-
# Setting one option

To set an option, a run reads the settings, checks them with the option set, and
replaces their file. Whatever the file holds, the run either ends well, and from
then on the settings are those before with the option set; or it does not end well,
and the file is as it was.

## Main definitions

* `World.settingsPlace` - the place of the file of the settings.
* `World.KeepsSettings` - the file of the settings is as it was.

## Main results

* `World.settingsPlace_ne_crashLogPlace` - no log of a crash takes the place of the settings.
* `outcome_setTask_cases` - what the task comes to.
* `run_stores_or_keeps` - what a run comes to that sets an option.
-/

import EntryPoint.Proofs.Program.Ending
import EntryPoint.Proofs.Settings.Commands
import EntryPoint.Proofs.Text.Identifier

namespace EntryPoint

open Document Session

variable {world ready after : World} {console : Console} {name value : String} {key : OptionKey}
  {settings : Settings} {directory : Path} {place : List String}

/-! ### The file of the settings -/

namespace World

/-- The path to the file of the settings. -/
def settingsPath (world : World) : Path :=
  (world.programPath "XDG_CONFIG_HOME" [".config"] ["." ++ programName]).child "config.json"

/-- The place of the file of the settings. -/
def settingsPlace (world : World) : List String :=
  world.settingsPath.destination world.directory

/-- The file of the settings is as it was: it holds the same bytes, or is still missing. -/
def KeepsSettings (before after : World) : Prop :=
  ∀ bytes, after.tree.item? before.settingsPlace = some (.file bytes) ↔
    before.tree.item? before.settingsPlace = some (.file bytes)

/-- Once the directory of the settings stands, the place is in it. -/
theorem IsSettingsDirectory.place_eq (settled : world.IsSettingsDirectory directory place) :
    place ++ ["config.json"] = world.settingsPlace := by
  have asked := settled.asked.symm.trans (outcome_programDirectory _ _ _)
  obtain rfl : directory = world.programPath _ _ _ := Except.ok.inj (congrArg Prod.fst asked)
  exact FileTree.eq_destination_of_locate
    (isFileName_settings.locate_child settled.leads settled.stands)

theorem Grown.settingsPlace_eq (grown : world.Grown after) :
    after.settingsPlace = world.settingsPlace := by
  obtain ⟨-, _, _, same⟩ := grown
  rw [same]
  rfl

theorem Grown.isSettingsDirectory (settled : world.IsSettingsDirectory directory place)
    (grown : world.Grown after) : after.IsSettingsDirectory directory place := by
  obtain ⟨tree, input, diagnostics, same⟩ := grown
  rw [same]
  exact settled.of_directories (fun _ => FileTree.Grown.directory tree) input world.output
    diagnostics

/-- Whatever the moment, the log of a crash has a name of its own. -/
theorem settingsPlace_ne_crashLogPlace (world : World) :
    world.settingsPlace ≠ world.crashLogPlace := by
  have slashless : '/' ∉ ".log".toList := by decide
  obtain ⟨parent, last, log⟩ := Path.exists_destination_child_append slashless (by decide)
    ("crash-" ++ world.moment) world.directory world.logDirectory
  have file : world.settingsPlace = _ ++ ["config.json"] :=
    isFileName_settings.part.destination_child _ _
  intro same
  have names := (List.append_inj' (file.symm.trans (same.trans log)) rfl).2
  have letters := congrArg String.toList (List.cons.inj names).1
  rw [String.toList_append] at letters
  -- One of the names ends in another letter.
  have ends := congrArg List.getLast? letters
  rw [List.getLast?_append_of_ne_nil _ (by decide)] at ends
  revert ends
  decide

theorem Spared.keepsSettings (spared : world.Spared after) : world.KeepsSettings after :=
  spared.file_iff world.settingsPlace world.settingsPlace_ne_crashLogPlace

end World

/-- Settings that could be loaded have a directory, which stands from then on. -/
theorem exists_isSettingsDirectory_of_loadSettings
    (loaded : outcome loadSettings world = (.ok settings, ready)) :
    ∃ directory place, ready.IsSettingsDirectory directory place ∧
      place ++ ["config.json"] = world.settingsPlace := by
  have prepares : Prepares [.configuration] loadSettings := prepares_loadSettings (by simp)
  obtain ⟨path, between, asked, rest⟩ := exists_of_outcome_bind_eq_ok loaded
  obtain ⟨directory, place, rfl, settled⟩ := exists_isSettingsDirectory asked
  -- Once the file was asked for, loading comes to the same, and grows on from there.
  have again : outcome loadSettings between = (.ok settings, ready) :=
    (outcome_bind_of_ok settled.outcome_settingsFile).trans rest
  have settled := World.Grown.isSettingsDirectory settled (prepares.grown_of_outcome again)
  exact ⟨directory, place, settled,
    settled.place_eq.trans (prepares.grown_of_outcome loaded).settingsPlace_eq⟩

/-- What is stored does not depend on the streams. -/
theorem World.Stores.of_diagnostics (stores : world.Stores directory place settings)
    (diagnostics : String) :
    ({ world with diagnostics } : World).Stores directory place settings where
  toIsSettingsDirectory :=
    stores.toIsSettingsDirectory.of_directories (fun _ => id) world.input world.output diagnostics
  nodup := stores.nodup
  holds := stores.holds

/-- Where a directory takes the place of the file, nothing is saved. -/
theorem World.IsSettingsDirectory.exists_outcome_saveSettings_of_occupied
    (settled : world.IsSettingsDirectory directory place)
    (occupied : world.tree.item? world.settingsPlace = some .directory) (settings : Settings) :
    ∃ fault stopped, outcome (saveSettings settings) world = (.error fault, stopped) ∧
      fault.Among [] ∧ world.Grown stopped := by
  have slashless : '/' ∉ (directory.child "config.json").name.toList := by
    rw [isFileName_settings.part.child_eq, Path.name, List.getLastD_concat]
    exact isFileName_settings.slashless
  have either := allOrNothing_replaceFile slashless settings.documentText world
  have leads := isFileName_settings.locate_child settled.leads settled.stands
  rw [← FileTree.eq_destination_of_locate leads, settled.place_eq] at either
  unfold saveSettings
  rw [outcome_bind_of_ok settled.outcome_settingsFile]
  rcases found : outcome (replaceFile (directory.child "config.json") settings.documentText) world
    with ⟨fault | value, stopped⟩
  · rw [found] at either
    cases either with
    | nothing among grown => exact ⟨fault, stopped, rfl, among, grown⟩
  · rw [found] at either
    cases either with
    | all _ written => exact absurd occupied written.tree.vacant

/-! ### What is said of it -/

theorem notMem_name (key : OptionKey) : ∀ c ∈ key.name.toList, c ≠ '[' ∧ c ≠ '\\' := by
  cases key <;> simp [OptionKey.name]

/-- What is not refused can be shown. -/
theorem notMem_display (accepted : ¬Refused key.name value) :
    ∀ c ∈ (coerced key value).display.toList, c ≠ '[' ∧ c ≠ '\\' := by
  rw [refused_name_iff] at accepted
  unfold coerced
  split
  · rename_i named
    have bindable : Text.isBindable value := by
      by_contra unbindable
      exact accepted ⟨named, unbindable⟩
    have identifier := Text.isIdentifier_of_isBindable bindable
    rintro c member
    constructor
    · rintro rfl
      exact Text.notMem_identifier identifier (by decide) (by decide) member
    · rintro rfl
      exact Text.notMem_identifier identifier (by decide) (by decide) member
  · cases onWords.contains (Text.lowerAscii value) <;> simp [Setting.display]

/-- That an option was set can be said in every manner. -/
theorem exists_outcome_report_set (console : Console) (accepted : ¬Refused key.name value)
    (world : World) : ∃ diagnostics, outcome (report console .success
        ("Set " ++ key.name ++ " = " ++ (coerced key value).display)) world =
      (.ok (), { world with diagnostics }) := by
  have plain : ∀ c ∈ ("Set " ++ key.name ++ " = " ++ (coerced key value).display).toList,
      c ≠ '[' ∧ c ≠ '\\' := by
    simp only [String.toList_append, List.forall_mem_append]
    exact ⟨⟨⟨by simp, notMem_name key⟩, by simp⟩, notMem_display accepted⟩
  obtain ⟨text, shown⟩ := Console.exists_diagnostic_success console plain
  exact ⟨world.diagnostics ++ text, by rw [outcome_report, shown]⟩

/-! ### The task -/

/-- Settings that are accepted with the option set are stored, unless a directory is in the way. -/
theorem exists_outcome_setTask_of_merged (console : Console)
    (loaded : outcome loadSettings world = (.ok settings, ready))
    (vacant : ready.tree.item? world.settingsPlace ≠ some .directory) {merged : GivenOptions}
    (accepted : Options.merge (.overrides (Settings.toOverrides
      (Association.insert settings key.name (coerced key value)))) = .ok merged) :
    ∃ done, outcome (setTask console key.name value) world = (.ok 0, done) ∧
      (outcome loadSettings done).1 =
        .ok (Association.insert settings key.name (coerced key value)) := by
  have nodup : ((Association.insert settings key.name (coerced key value)).map Prod.fst).Nodup :=
    Association.nodup_insert (nodup_of_outcome_loadSettings loaded)
  have fit := (Options.exists_merge_eq_ok_iff (Settings.nodup_toOverrides nodup)).mp ⟨_, accepted⟩
  have unrefused : ¬Refused key.name value := fun refused =>
    Settings.not_fit_insert settings (read_coerced_ne refused) fit
  obtain ⟨directory, place, settled, same⟩ := exists_isSettingsDirectory_of_loadSettings loaded
  rw [← same] at vacant
  obtain ⟨tree, saved, stores, -⟩ := settled.exists_outcome_saveSettings vacant nodup
  obtain ⟨diagnostics, reported⟩ :=
    exists_outcome_report_set console unrefused { ready with tree }
  refine ⟨{ ready with tree, diagnostics }, ?_,
    congrArg Prod.fst (stores.of_diagnostics diagnostics).outcome_loadSettings⟩
  unfold setTask
  rw [key.ofName?_name]
  dsimp only
  rw [outcome_bind_of_ok loaded, accepted]
  dsimp only
  rw [outcome_bind_of_ok saved, outcome_bind_of_ok reported, outcome_pure]

/-- Where a directory is in the way, nothing is stored. -/
theorem exists_outcome_setTask_of_occupied (console : Console)
    (loaded : outcome loadSettings world = (.ok settings, ready))
    (occupied : ready.tree.item? world.settingsPlace = some .directory) {merged : GivenOptions}
    (accepted : Options.merge (.overrides (Settings.toOverrides
      (Association.insert settings key.name (coerced key value)))) = .ok merged) :
    ∃ fault stopped, outcome (setTask console key.name value) world = (.error fault, stopped) ∧
      fault.Among [] ∧ world.Grown stopped := by
  have prepares : Prepares [.configuration] loadSettings := prepares_loadSettings (by simp)
  have grown := prepares.grown_of_outcome loaded
  rw [← grown.settingsPlace_eq] at occupied
  obtain ⟨directory, place, settled, -⟩ := exists_isSettingsDirectory_of_loadSettings loaded
  obtain ⟨fault, stopped, failed, among, further⟩ :=
    settled.exists_outcome_saveSettings_of_occupied occupied
      (Association.insert settings key.name (coerced key value))
  refine ⟨fault, stopped, ?_, among, grown.trans further⟩
  unfold setTask
  rw [key.ofName?_name]
  dsimp only
  rw [outcome_bind_of_ok loaded, accepted]
  exact outcome_bind_of_error failed

/-- A refusal is reported, and nothing else changes. -/
theorem outcome_refusal_cases (console : Console) (message : String) (world : World) :
    (∃ fault stopped, outcome (report console .error message >>= fun _ =>
        (pure 2 : Session Int)) world = (.error fault, stopped) ∧
      fault.Among [.configuration] ∧ world.Grown stopped) ∨
    ∃ refused, outcome (report console .error message >>= fun _ => (pure 2 : Session Int)) world =
      (.ok 2, refused) ∧ world.Grown refused := by
  have prepares : Prepares [.configuration] (report console .error message) :=
    prepares_report console .error message
  rcases found : outcome (report console .error message) world with ⟨fault | _, after⟩
  · exact .inl ⟨fault, after, outcome_bind_of_error found, prepares.among_of_outcome found,
      prepares.grown_of_outcome found⟩
  · exact .inr ⟨after, outcome_bind_of_ok found, prepares.grown_of_outcome found⟩

/-- The task is stopped or refuses the option before any file changes, or it stores the settings
with the option set. -/
theorem outcome_setTask_cases (console : Console) (name value : String) (world : World) :
    ((∃ fault stopped, outcome (setTask console name value) world = (.error fault, stopped) ∧
        fault.Among [.configuration] ∧ world.Grown stopped) ∨
      ∃ refused, outcome (setTask console name value) world = (.ok 2, refused) ∧
        world.Grown refused) ∨
    ∃ key settings done, name = OptionKey.name key ∧
      (outcome loadSettings world).1 = .ok settings ∧
      outcome (setTask console name value) world = (.ok 0, done) ∧
      (outcome loadSettings done).1 =
        .ok (Association.insert settings name (coerced key value)) := by
  have prepares : Prepares [.configuration] loadSettings := prepares_loadSettings (by simp)
  cases known : OptionKey.ofName? name with
  | none =>
    refine .inl ?_
    unfold setTask
    rw [known]
    exact outcome_refusal_cases console _ world
  | some key =>
    obtain rfl := OptionKey.ofName?_eq_some_iff.mp known
    rcases loaded : outcome loadSettings world with ⟨fault | settings, ready⟩
    · refine .inl (.inl ⟨fault, ready, ?_, prepares.among_of_outcome loaded,
        prepares.grown_of_outcome loaded⟩)
      unfold setTask
      rw [known]
      exact outcome_bind_of_error loaded
    have grown := prepares.grown_of_outcome loaded
    cases merged : Options.merge (.overrides (Settings.toOverrides
      (Association.insert settings key.name (coerced key value)))) with
    | error rejection =>
      have refuses : outcome (setTask console key.name value) world =
          outcome (report console .error ("Validation error: " ++ rejection.text) >>= fun _ =>
            (pure 2 : Session Int)) ready := by
        unfold setTask
        rw [known]
        dsimp only
        rw [outcome_bind_of_ok loaded, merged]
        rfl
      rw [refuses]
      rcases outcome_refusal_cases console ("Validation error: " ++ rejection.text) ready with
        ⟨fault, stopped, failed, among, further⟩ | ⟨refused, ended, further⟩
      · exact .inl (.inl ⟨fault, stopped, failed, among, grown.trans further⟩)
      · exact .inl (.inr ⟨refused, ended, grown.trans further⟩)
    | ok merged' =>
      -- All that can be in the way of settings that are accepted is a directory.
      by_cases occupied : ready.tree.item? world.settingsPlace = some .directory
      · obtain ⟨fault, stopped, failed, among, grown⟩ :=
          exists_outcome_setTask_of_occupied console loaded occupied merged
        exact .inl (.inl ⟨fault, stopped, failed, among.mono (by simp), grown⟩)
      · obtain ⟨done, ended, stored⟩ :=
          exists_outcome_setTask_of_merged console loaded occupied merged
        exact .inr ⟨key, settings, done, rfl, rfl, ended, stored⟩

/-! ### Runs -/

section Run

variable {arguments : List String} {manner : Manner}

theorem outcome_attempt_of_set
    (asked : Request.ofArguments arguments = .task manner (.setOption name value))
    (world : World) : outcome (attempt arguments) world =
      outcome (setTask (world.console arguments) name value) world := by
  rw [console_eq_of_task asked]
  unfold attempt
  rw [asked]
  exact outcome_bind_of_ok (outcome_openConsole manner.console)

theorem outcome_run_of_set {code : Int}
    (asked : Request.ofArguments arguments = .task manner (.setOption name value))
    (ended : outcome (setTask (world.console arguments) name value) world = (.ok code, after)) :
    outcome (run arguments) world = (.ok code, after) := by
  rw [outcome_run, outcome_attempt_of_set asked, ended]

/-- A run that fails unforeseen in its task ends with no code but the general one. -/
theorem code_eq_of_set {fault : Fault} {code : Int}
    (asked : Request.ofArguments arguments = .task manner (.setOption name value))
    (failed : outcome (setTask (world.console arguments) name value) world = (.error fault, after))
    (among : fault.Among []) (ended : (outcome (run arguments) world).1 = .ok code) : code = 1 := by
  have unknown (failure : Failure) : fault ≠ .failure failure := by
    rintro rfl
    cases among with
    | failure member => cases member
  rw [outcome_run, outcome_attempt_of_set asked, failed] at ended
  exact code_eq_of_unknown unknown ended

/-- A run that sets an option does not end well and keeps the file of the settings as it was, or it
ends well, and the settings that are loaded from then on are those that were loaded before with the
option set to what the text is coerced to: all others are as they were, the names keep their order,
and a new one stands last. -/
theorem run_stores_or_keeps
    (asked : Request.ofArguments arguments = .task manner (.setOption name value))
    (world : World) :
    ((outcome (run arguments) world).1 ≠ .ok 0 ∧
      world.KeepsSettings (outcome (run arguments) world).2) ∨
    (outcome (run arguments) world).1 = .ok 0 ∧ ∃ key settings next,
      name = OptionKey.name key ∧ (outcome loadSettings world).1 = .ok settings ∧
      (outcome loadSettings (outcome (run arguments) world).2).1 = .ok next ∧
      (∀ other : String, next.lookup other =
        if other = name then some (coerced key value) else settings.lookup other) ∧
      next.map Prod.fst = if name ∈ settings.map Prod.fst then settings.map Prod.fst
        else settings.map Prod.fst ++ [name] := by
  obtain (⟨fault, stopped, failed, among, grown⟩ | ⟨refused, ended, grown⟩) |
    ⟨key, settings, done, known, loaded, ended, stored⟩ :=
    outcome_setTask_cases (world.console arguments) name value world
  · obtain ⟨unended, spared⟩ := spared_of_stopped (world.console arguments) among grown
    rw [outcome_run, outcome_attempt_of_set asked, failed]
    exact .inl ⟨unended, spared.keepsSettings⟩
  · rw [outcome_run_of_set asked ended]
    exact .inl ⟨by rintro ⟨⟩, (World.Grown.spared grown).keepsSettings⟩
  · rw [outcome_run_of_set asked ended]
    exact .inr ⟨rfl, key, settings, _, known, loaded, stored, fun _ => Association.lookup_insert,
      Association.map_fst_insert settings name (coerced key value)⟩

end Run

theorem outcome_loadSettings_freshHome :
    outcome loadSettings freshHome = (.ok [], readyHome) := by
  obtain ⟨directory, place, -, keeps⟩ := unconfigured_freshHome.exists_keeps
  exact keeps.outcome_loadSettings

theorem vacant_settingsPlace_freshHome :
    readyHome.tree.item? freshHome.settingsPlace ≠ some .directory := by
  have prepares : Prepares [.configuration] loadSettings := prepares_loadSettings (by simp)
  have grown := prepares.grown_of_outcome outcome_loadSettings_freshHome
  obtain ⟨directory, place, -, keeps⟩ := unconfigured_freshHome.exists_keeps
  rw [← grown.settingsPlace_eq, ← keeps.settled.toIsSettingsDirectory.place_eq]
  rcases keeps.settled.holds with held | ⟨missing, -⟩
  · rw [held]
    rintro ⟨⟩
  · rw [missing]
    rintro ⟨⟩

/-- The name of the library is the first setting of a home. -/
theorem run_stores_lib :
    Request.ofArguments ["config", "set", "lib", "argtide"] =
      .task {} (.setOption "lib" "argtide") ∧
    (outcome (run ["config", "set", "lib", "argtide"]) freshHome).1 = .ok 0 ∧ ∃ next,
      (outcome loadSettings (outcome (run ["config", "set", "lib", "argtide"]) freshHome).2).1 =
        .ok next ∧ next.lookup "lib" = some (.text "argtide") ∧ next.map Prod.fst = ["lib"] := by
  have asked : Request.ofArguments ["config", "set", "lib", "argtide"] =
      .task {} (.setOption "lib" "argtide") := by rfl
  have merged : Options.merge (.overrides (Settings.toOverrides
      (Association.insert [] OptionKey.lib.name (coerced .lib "argtide")))) =
      .ok ⟨{ lib := "argtide" }, OptionKey.all⟩ := by decide
  obtain ⟨done, ended, -⟩ := exists_outcome_setTask_of_merged
    (freshHome.console ["config", "set", "lib", "argtide"]) outcome_loadSettings_freshHome
    vacant_settingsPlace_freshHome merged
  have ended := outcome_run_of_set asked ended
  refine ⟨asked, congrArg Prod.fst ended, ?_⟩
  rcases run_stores_or_keeps asked freshHome with
    ⟨unended, -⟩ | ⟨-, key, settings, next, same, loaded, stored, lookup, names⟩
  · exact absurd (congrArg Prod.fst ended) unended
  · obtain rfl : OptionKey.lib = key := OptionKey.name_injective same
    rw [outcome_loadSettings_freshHome] at loaded
    cases loaded
    exact ⟨next, stored, (lookup "lib").trans (if_pos rfl), names⟩

end EntryPoint
