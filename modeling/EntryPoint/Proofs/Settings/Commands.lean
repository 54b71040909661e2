/-
# Settings under commands

Options are shown, set and reset by one command after the other, each of which
reads what the ones before it stored. However many there are, every option is
what it was last set to since the last reset, or its default. A command that sets
an option is refused only for an unknown name and for a value that no name can
be, and then it leaves what is stored as it was.

## Main definitions

* `Deed`, `Instruction` - what a command is to do, and how it is given.
* `World.after` - a world after commands.
* `Refused` - the settings that are refused.
* `lastSetting` - what an option was last set to.
* `World.Unconfigured` - a world in which nothing has been configured.

## Main results

* `World.Keeps.step` - what one command does to the settings.
* `World.Keeps.run` - what commands do to them.
* `options_eq_lastSetting` - the options after commands, and which settings are refused.
-/

import EntryPoint.Program
import EntryPoint.Proofs.Program.Report
import EntryPoint.Proofs.Settings.Confirmation
import EntryPoint.Proofs.Settings.Layers

namespace EntryPoint

open Session

/-! ### Commands -/

/-- What a command does with the options. -/
inductive Deed
  | view
  | set (name value : String)
  | reset

/-- The task of a command. -/
def Deed.task : Deed → Task
  | .view => .showOptions
  | .set name value => .setOption name value
  | .reset => .resetOptions

/-- A command as it is given: how the program is to behave, what it is to do, and the input. -/
structure Instruction where
  manner : Manner := {}
  deed : Deed
  input : Except String String := .ok ""

/-- What a command comes to in a world, and the world behind it. -/
def Instruction.outcome (instruction : Instruction) (world : World) : Except Fault Int × World :=
  Session.outcome (fulfil (.task instruction.manner instruction.deed.task))
    { world with input := instruction.input }

/-- A world after commands. -/
def World.after (world : World) (instructions : List Instruction) : World :=
  instructions.foldl (fun world instruction => (instruction.outcome world).2) world

/-- Whether a command writes without colour. -/
def Instruction.IsColorless (instruction : Instruction) (world : World) : Prop :=
  (Console.ofFlags instruction.manner.console world.surroundings).usesColor = false

/-! ### What commands are to do -/

/-- The settings that are refused: of a name that is no option, and of a name to bind that cannot be
bound. -/
def Refused (name value : String) : Prop :=
  name ∉ OptionKey.all.map OptionKey.name ∨
    name ∈ [OptionKey.lib.name, OptionKey.functionName.name] ∧ ¬Text.isBindable value

instance (name value : String) : Decidable (Refused name value) :=
  inferInstanceAs (Decidable (_ ∨ _))

/-- What a command sets an option to, if it does. -/
def Deed.setting? (key : OptionKey) : Deed → Option Setting
  | .set name value =>
    if name = key.name ∧ ¬Refused name value then some (coerced key value) else none
  | .view | .reset => none

/-- Whether a command resets the options: it is forced to, or the input agrees. -/
def Instruction.resets (instruction : Instruction) : Bool :=
  match instruction.deed with
  | .reset => instruction.manner.isForced || answerIn? instruction.input = some true
  | .view | .set _ _ => false

/-- What an option was last set to since the last reset, if it was. -/
def lastSetting (key : OptionKey) (instructions : List Instruction) : Option Setting :=
  -- Read from the end: nothing before the last reset counts.
  (instructions.reverse.takeWhile (!·.resets)).findSome? (·.deed.setting? key)

theorem lastSetting_concat (key : OptionKey) (instructions : List Instruction)
    (instruction : Instruction) :
    lastSetting key (instructions ++ [instruction]) =
      if instruction.resets then none
      else (instruction.deed.setting? key).or (lastSetting key instructions) := by
  unfold lastSetting
  rw [List.reverse_concat, List.takeWhile_cons]
  by_cases resets : instruction.resets
  · simp [resets]
  · simp only [resets, Bool.not_false, if_true, Bool.false_eq_true, if_false, List.findSome?_cons]
    cases instruction.deed.setting? key <;> rfl

theorem refused_name_iff (key : OptionKey) (value : String) :
    Refused key.name value ↔ key.isName ∧ ¬Text.isBindable value := by
  have known : key.name ∈ OptionKey.all.map OptionKey.name := List.mem_map_of_mem key.mem_all
  have naming : key.name ∈ [OptionKey.lib.name, OptionKey.functionName.name] ↔ key.isName := by
    cases key <;> decide
  unfold Refused
  rw [naming]
  exact ⟨fun refused => refused.resolve_left (absurd known), .inr⟩

theorem refused_of_ofName?_eq_none {name value : String} (unknown : OptionKey.ofName? name = none) :
    Refused name value := by
  refine .inl fun known => ?_
  obtain ⟨key, -, rfl⟩ := List.mem_map.mp known
  cases key.ofName?_name.symm.trans unknown

/-- What is not refused is read as it is. -/
theorem read_coerced {key : OptionKey} {value : String} (accepted : ¬Refused key.name value) :
    key.read (coerced key value).toValue = .ok (coerced key value) := by
  rw [refused_name_iff] at accepted
  unfold coerced OptionKey.read
  by_cases named : key.isName
  · have bindable : Text.isBindable value := by
      by_contra unbindable
      exact accepted ⟨named, unbindable⟩
    simp [named, Setting.toValue, readName, readText, bindable, bind, Except.bind, Functor.map,
      Except.map]
  · simp only [named]
    rfl

/-- What is refused for its value cannot be read. -/
theorem read_coerced_ne {key : OptionKey} {value : String} (refused : Refused key.name value)
    (setting : Setting) : key.read (coerced key value).toValue ≠ .ok setting := by
  obtain ⟨named, unbindable⟩ := (refused_name_iff key value).mp refused
  simp [coerced, OptionKey.read, named, Setting.toValue, readName, readText, unbindable, bind,
    Except.bind, Functor.map, Except.map]

/-! ### What a world keeps -/

/-- The bytes of the file at a path, if a file stands there. -/
def World.bytesAt? (world : World) (path : Path) : Option (List UInt8) :=
  match world.tree.locate world.directory path with
  | .error _ => none
  | .ok place =>
    match world.tree.item? place with
    | some (.file bytes) => some bytes
    | some .directory | none => none

theorem World.bytesAt?_eq_none {world : World} {path : Path} (missing : world.kind? path = none) :
    world.bytesAt? path = none := by
  unfold World.kind? at missing
  unfold World.bytesAt?
  cases leads : world.tree.locate world.directory path with
  | error kind => rfl
  | ok place =>
    rw [leads] at missing
    simp only [Option.map_eq_none_iff.mp missing]

/-- A world keeps settings if it is settled with them once the directory of the settings was asked
for, which changes nothing about the file in it. -/
structure World.Keeps (world ready : World) (directory : Path) (place : List String)
    (settings : Settings) : Prop where
  asked : outcome settingsFile world = (.ok (directory.child "config.json"), ready)
  settled : ready.Settled directory place settings
  bytes : ready.bytesAt? (directory.child "config.json") =
    world.bytesAt? (directory.child "config.json")

namespace World

variable {world ready : World} {directory : Path} {place : List String} {settings : Settings}

theorem Settled.keeps (settled : world.Settled directory place settings) :
    world.Keeps world directory place settings :=
  ⟨settled.toIsSettingsDirectory.outcome_settingsFile, settled, rfl⟩

/-- Asking for the directory of the settings changes nothing but files. -/
theorem Keeps.exists_tree (keeps : world.Keeps ready directory place settings) :
    ∃ tree, ready = { world with tree } := by
  obtain ⟨result, tree, found⟩ := concernsFiles_settingsFile world
  have asked := (found world.input world.output world.diagnostics).symm.trans keeps.asked
  exact ⟨tree, (congrArg Prod.snd asked).symm⟩

/-- The streams do not matter. -/
theorem Keeps.of_streams (keeps : world.Keeps ready directory place settings)
    (input : Except String String) (output diagnostics : String) :
    ({ world with input, output, diagnostics } : World).Keeps
      { ready with input, output, diagnostics } directory place settings := by
  obtain ⟨result, tree, found⟩ := concernsFiles_settingsFile world
  have asked := (found world.input world.output world.diagnostics).symm.trans keeps.asked
  obtain ⟨rfl, rfl⟩ := Prod.mk.inj asked
  exact ⟨found input output diagnostics, keeps.settled.of_streams input output diagnostics,
    keeps.bytes⟩

/-- What asks for the file of the settings first comes to the same once the file was asked for. -/
theorem Keeps.outcome_bind_settingsFile (keeps : world.Keeps ready directory place settings)
    -- Asked again, the ready world answers as the first one did, so both go on from the same place.
    {α : Type} (next : Path → Session α) :
    outcome (settingsFile >>= next) world = outcome (settingsFile >>= next) ready := by
  rw [outcome_bind_of_ok keeps.asked,
    outcome_bind_of_ok keeps.settled.toIsSettingsDirectory.outcome_settingsFile]

theorem Keeps.outcome_loadSettings (keeps : world.Keeps ready directory place settings) :
    outcome loadSettings world = (.ok settings, ready) :=
  (keeps.outcome_bind_settingsFile _).trans keeps.settled.toStores.outcome_loadSettings

theorem Keeps.exists_outcome_settingsDirectory
    (keeps : world.Keeps ready directory place settings) :
    ∃ path, outcome settingsDirectory world = (.ok path, ready) := by
  obtain ⟨path, between, asked, given⟩ := exists_of_outcome_bind_eq_ok keeps.asked
  obtain rfl : between = ready := congrArg Prod.snd given
  exact ⟨path, asked⟩

theorem Keeps.exists_outcome_resolveOptions (keeps : world.Keeps ready directory place settings) :
    ∃ options, outcome (resolveOptions []) world = (.ok options, ready) ∧
      ∀ key : OptionKey,
        options.get key = (settings.lookup key.name).getD (Options.get {} key) := by
  obtain ⟨options, resolved, get⟩ := keeps.settled.exists_outcome_resolveOptions
  refine ⟨options, ?_, get⟩
  unfold resolveOptions at resolved ⊢
  rw [outcome_bind_of_ok keeps.outcome_loadSettings]
  rwa [outcome_bind_of_ok keeps.settled.toStores.outcome_loadSettings] at resolved

/-- What is saved is kept. -/
theorem Keeps.exists_outcome_saveSettings (keeps : world.Keeps ready directory place settings)
    {next : Settings} (nodup : (next.map Prod.fst).Nodup) (fit : next.Fit) :
    ∃ tree, outcome (saveSettings next) world = (.ok (), { world with tree }) ∧
      ({ world with tree } : World).Settled directory place next := by
  have vacant : ready.tree.item? (place ++ ["config.json"]) ≠ some .directory := by
    intro stands
    rcases keeps.settled.holds with held | ⟨missing, -⟩
    · cases held.symm.trans stands
    · cases missing.symm.trans stands
  obtain ⟨tree, saved, stores, elsewhere⟩ :=
    keeps.settled.toIsSettingsDirectory.exists_outcome_saveSettings vacant nodup
  have settled := keeps.settled.of_stores fit stores elsewhere
  obtain ⟨other, rfl⟩ := keeps.exists_tree
  exact ⟨tree, (keeps.outcome_bind_settingsFile _).trans saved, settled⟩

end World

/-! ### One command -/

section Step

variable {world ready : World} {directory : Path} {place : List String} {settings : Settings}
  {console : Console}

/-- Showing the options leaves the settings as they are. -/
theorem exists_outcome_showTask (colorless : console.usesColor = false)
    (keeps : world.Keeps ready directory place settings) :
    ∃ output diagnostics, outcome (showTask console) world =
      (.ok (), { ready with output, diagnostics }) := by
  obtain ⟨path, asked⟩ := keeps.exists_outcome_settingsDirectory
  obtain ⟨diagnostics, reported⟩ := exists_outcome_report ready colorless .info
    ("Config directory: " ++ path.text)
  have settled := keeps.settled.of_streams ready.input ready.output diagnostics
  obtain ⟨options, resolved, -⟩ := settled.exists_outcome_resolveOptions
  refine ⟨ready.output ++ console.dataText options.toValue, diagnostics, ?_⟩
  unfold showTask
  rw [outcome_bind_of_ok asked, outcome_bind_of_ok reported, outcome_bind_of_ok resolved]
  rfl

/-- A setting that is refused leaves the settings as they are. -/
theorem exists_outcome_setTask_of_refused (colorless : console.usesColor = false)
    (keeps : world.Keeps ready directory place settings) {name value : String}
    (refused : Refused name value) :
    ∃ between ∈ [world, ready], ∃ diagnostics, outcome (setTask console name value) world =
      (.ok 2, { between with diagnostics }) := by
  unfold setTask
  cases known : OptionKey.ofName? name with
  | none =>
    obtain ⟨diagnostics, reported⟩ := exists_outcome_report world colorless .error
      ("Unknown render option: " ++ name)
    refine ⟨world, List.mem_cons_self, diagnostics, ?_⟩
    dsimp only
    rw [outcome_bind_of_ok reported]
    rfl
  -- A known name is refused for its value, which the check of the merged settings finds.
  | some key =>
    obtain rfl := OptionKey.ofName?_eq_some_iff.mp known
    have nodup : ((Association.insert settings key.name (coerced key value)).map
        Prod.fst).Nodup := Association.nodup_insert keeps.settled.nodup
    obtain ⟨rejection, rejected⟩ := Options.exists_merge_eq_error (Settings.nodup_toOverrides nodup)
      (Settings.not_fit_insert settings (read_coerced_ne refused))
    obtain ⟨diagnostics, reported⟩ := exists_outcome_report ready colorless .error
      ("Validation error: " ++ rejection.text)
    refine ⟨ready, List.mem_cons_of_mem _ List.mem_cons_self, diagnostics, ?_⟩
    dsimp only
    rw [outcome_bind_of_ok keeps.outcome_loadSettings, rejected]
    dsimp only
    rw [outcome_bind_of_ok reported]
    rfl

/-- A setting that is not refused is stored in place of the one before it. -/
theorem exists_outcome_setTask_of_accepted (colorless : console.usesColor = false)
    (keeps : world.Keeps ready directory place settings) {key : OptionKey} {value : String}
    (accepted : ¬Refused key.name value) :
    ∃ tree diagnostics, outcome (setTask console key.name value) world =
        (.ok 0, { ready with tree, diagnostics }) ∧
      ({ ready with tree, diagnostics } : World).Settled directory place
        (Association.insert settings key.name (coerced key value)) := by
  have fit := keeps.settled.fit.insert (read_coerced accepted)
  have nodup : ((Association.insert settings key.name (coerced key value)).map Prod.fst).Nodup :=
    Association.nodup_insert keeps.settled.nodup
  obtain ⟨options, merged⟩ :=
    (Options.exists_merge_eq_ok_iff (Settings.nodup_toOverrides nodup)).mpr fit.toOverrides
  obtain ⟨tree, saved, settled⟩ := keeps.settled.keeps.exists_outcome_saveSettings nodup fit
  obtain ⟨diagnostics, reported⟩ := exists_outcome_report { ready with tree } colorless
    .success ("Set " ++ key.name ++ " = " ++ (coerced key value).display)
  refine ⟨tree, diagnostics, ?_, settled.of_streams _ _ _⟩
  unfold setTask
  rw [key.ofName?_name]
  dsimp only
  rw [outcome_bind_of_ok keeps.outcome_loadSettings, merged]
  dsimp only
  rw [outcome_bind_of_ok saved, outcome_bind_of_ok reported]
  rfl

/-- The stored settings are given up. -/
theorem exists_outcome_saveSettings_nil (colorless : console.usesColor = false)
    (keeps : world.Keeps ready directory place settings) (message : String) :
    ∃ tree diagnostics,
      outcome (saveSettings [] >>= fun _ => report console .success message >>= fun _ =>
          (pure 0 : Session Int)) world = (.ok 0, { world with tree, diagnostics }) ∧
      ({ world with tree, diagnostics } : World).Settled directory place [] := by
  have nodup : (([] : Settings).map Prod.fst).Nodup := List.nodup_nil
  have fit : Settings.Fit [] := fun _ _ member => absurd member List.not_mem_nil
  obtain ⟨tree, saved, settled⟩ := keeps.exists_outcome_saveSettings nodup fit
  obtain ⟨diagnostics, reported⟩ :=
    exists_outcome_report { world with tree } colorless .success message
  refine ⟨tree, diagnostics, ?_, settled.of_streams _ _ _⟩
  rw [outcome_bind_of_ok saved, outcome_bind_of_ok reported, outcome_pure]

/-- A reset that is forced or agreed to stores that there are no settings. -/
theorem exists_outcome_resetTask (colorless : console.usesColor = false)
    (keeps : world.Keeps ready directory place settings) (isForced : Bool)
    (agreed : isForced || answerIn? world.input = some true) :
    ∃ tree input output diagnostics, outcome (resetTask console isForced) world =
        (.ok 0, { world with tree, input, output, diagnostics }) ∧
      ({ world with tree, input, output, diagnostics } : World).Settled directory place [] := by
  unfold resetTask
  cases isForced with
  | true =>
    obtain ⟨tree, diagnostics, saved, settled⟩ := exists_outcome_saveSettings_nil colorless keeps
      "Configuration reset to defaults."
    refine ⟨tree, world.input, world.output, diagnostics, ?_, settled⟩
    rw [if_pos rfl, outcome_bind_of_ok (outcome_pure _)]
    exact saved
  | false =>
    obtain ⟨input, output, answered⟩ :=
      exists_outcome_confirm world "Reset all render options to defaults?"
    have yes : answerIn? world.input = some true := by simpa using agreed
    obtain ⟨tree, diagnostics, saved, settled⟩ := exists_outcome_saveSettings_nil colorless
      (keeps.of_streams input output world.diagnostics) "Configuration reset to defaults."
    refine ⟨tree, input, output, diagnostics, ?_, settled⟩
    rw [if_neg (by decide), outcome_bind_of_ok answered, yes]
    exact saved

/-- A reset that is declined or aborted changes nothing but the streams. -/
theorem exists_outcome_resetTask_of_disagreed (world : World)
    (colorless : console.usesColor = false) (disagreed : answerIn? world.input ≠ some true) :
    ∃ code input output diagnostics, outcome (resetTask console false) world =
      (.ok code, { world with input, output, diagnostics }) := by
  obtain ⟨input, output, answered⟩ :=
    exists_outcome_confirm world "Reset all render options to defaults?"
  unfold resetTask
  rw [if_neg (by decide), outcome_bind_of_ok answered]
  cases given : answerIn? world.input with
  | none => exact ⟨1, input, output, _, rfl⟩
  | some answer =>
    cases answer with
    | true => exact absurd given disagreed
    | false =>
      obtain ⟨diagnostics, reported⟩ :=
        exists_outcome_report { world with input, output } colorless .info "Cancelled."
      refine ⟨0, input, output, diagnostics, ?_⟩
      dsimp only
      rw [outcome_bind_of_ok reported]
      rfl

end Step

/-! ### Commands in sequence -/

section Run

variable {world ready : World} {directory : Path} {place : List String} {settings : Settings}

/-- A command whose task is performed without a fault ends with the exit code of the task. -/
theorem Instruction.outcome_of_perform {instruction : Instruction} {code : Int} {after : World}
    (performed : Session.outcome (perform
        (Console.ofFlags instruction.manner.console world.surroundings) instruction.manner
        instruction.deed.task) { world with input := instruction.input } = (.ok code, after)) :
    instruction.outcome world = (.ok code, after) := by
  have opened : Session.outcome (openConsole instruction.manner.console)
      { world with input := instruction.input } =
      (.ok (Console.ofFlags instruction.manner.console world.surroundings),
        { world with input := instruction.input }) := rfl
  unfold Instruction.outcome fulfil
  rw [outcome_bind_of_ok opened, outcome_tryCatch, performed]

/-- A setting that is refused ends with the exit code for misuse and leaves what is stored as it
was. -/
theorem exists_outcome_of_refused (keeps : world.Keeps ready directory place settings)
    {manner : Manner} {name value : String} {input : Except String String}
    (colorless : Instruction.IsColorless ⟨manner, .set name value, input⟩ world)
    (refused : Refused name value) :
    ∃ after : World, Instruction.outcome ⟨manner, .set name value, input⟩ world = (.ok 2, after) ∧
      after.surroundings = world.surroundings ∧
      (∃ ready, after.Keeps ready directory place settings) ∧
      after.bytesAt? (directory.child "config.json") =
        world.bytesAt? (directory.child "config.json") := by
  have given := keeps.of_streams input world.output world.diagnostics
  obtain ⟨between, among, diagnostics, performed⟩ :=
    exists_outcome_setTask_of_refused colorless given refused
  obtain ⟨tree, rfl⟩ := keeps.exists_tree
  refine ⟨{ between with diagnostics }, Instruction.outcome_of_perform performed, ?_⟩
  -- A refusal for the name never asks for the directory; one for the value has.
  rcases List.mem_cons.mp among with rfl | last
  · exact ⟨rfl, ⟨_, keeps.of_streams _ _ _⟩, rfl⟩
  · obtain rfl := List.mem_singleton.mp last
    exact ⟨rfl, ⟨_, (keeps.settled.of_streams _ _ _).keeps⟩, keeps.bytes⟩

/-- A setting that is not refused ends well and is kept. -/
theorem exists_outcome_of_accepted (keeps : world.Keeps ready directory place settings)
    {manner : Manner} {key : OptionKey} {value : String} {input : Except String String}
    (colorless : Instruction.IsColorless ⟨manner, .set key.name value, input⟩ world)
    (accepted : ¬Refused key.name value) :
    ∃ after : World,
      Instruction.outcome ⟨manner, .set key.name value, input⟩ world = (.ok 0, after) ∧
      after.surroundings = world.surroundings ∧
      after.Settled directory place
        (Association.insert settings key.name (coerced key value)) := by
  have given := keeps.of_streams input world.output world.diagnostics
  obtain ⟨tree, diagnostics, performed, settled⟩ :=
    exists_outcome_setTask_of_accepted colorless given accepted
  obtain ⟨other, rfl⟩ := keeps.exists_tree
  exact ⟨_, Instruction.outcome_of_perform performed, rfl, settled⟩

/-- Every command keeps settings that fit: those it was to set or to give up, and all others as
they were. -/
theorem World.Keeps.step (keeps : world.Keeps ready directory place settings)
    {instruction : Instruction} (colorless : instruction.IsColorless world) :
    ∃ ready next, (instruction.outcome world).2.Keeps ready directory place next ∧
      (instruction.outcome world).2.surroundings = world.surroundings ∧
      ∀ key : OptionKey, next.lookup key.name =
        if instruction.resets then none
        else (instruction.deed.setting? key).or (settings.lookup key.name) := by
  obtain ⟨manner, deed, input⟩ := instruction
  have given := keeps.of_streams input world.output world.diagnostics
  cases deed with
  | view =>
    obtain ⟨output, diagnostics, shown⟩ := exists_outcome_showTask colorless given
    obtain ⟨tree, rfl⟩ := keeps.exists_tree
    have performed : Session.outcome (perform (Console.ofFlags manner.console world.surroundings)
        manner .showOptions) { world with input } =
        (.ok 0, { world with tree, input, output, diagnostics }) := by
      unfold perform
      rw [outcome_bind_of_ok shown, outcome_pure]
    rw [Instruction.outcome_of_perform performed]
    exact ⟨_, settings, (keeps.settled.of_streams _ _ _).keeps, rfl, fun key => rfl⟩
  | set name value =>
    by_cases refused : Refused name value
    · obtain ⟨after, performed, surroundings, ⟨ready, kept⟩, -⟩ :=
        exists_outcome_of_refused keeps colorless refused
      rw [performed]
      refine ⟨ready, settings, kept, surroundings, fun key => ?_⟩
      simp [Instruction.resets, Deed.setting?, refused]
    · cases known : OptionKey.ofName? name with
      | none => exact absurd (refused_of_ofName?_eq_none known) refused
      | some key =>
        obtain rfl := OptionKey.ofName?_eq_some_iff.mp known
        obtain ⟨after, performed, surroundings, settled⟩ :=
          exists_outcome_of_accepted keeps colorless refused
        rw [performed]
        refine ⟨after, _, settled.keeps, surroundings, fun other => ?_⟩
        rw [Association.lookup_insert]
        by_cases same : other = key
        · subst same
          simp [Instruction.resets, Deed.setting?, refused]
        · have apart : key.name ≠ other.name := fun names =>
            same (OptionKey.name_injective names).symm
          simp [Instruction.resets, Deed.setting?, apart, apart.symm]
  | reset =>
    by_cases agreed : manner.isForced || answerIn? input = some true
    · obtain ⟨tree, left, output, diagnostics, performed, settled⟩ :=
        exists_outcome_resetTask colorless given manner.isForced agreed
      have ended : Instruction.outcome ⟨manner, .reset, input⟩ world = (.ok 0, _) :=
        Instruction.outcome_of_perform performed
      rw [ended]
      refine ⟨_, [], settled.keeps, rfl, fun key => ?_⟩
      simp only [Instruction.resets, agreed, if_true, List.lookup_nil]
    · obtain ⟨unforced, disagreed⟩ : manner.isForced = false ∧ answerIn? input ≠ some true := by
        simpa using agreed
      obtain ⟨code, left, output, diagnostics, performed⟩ :=
        exists_outcome_resetTask_of_disagreed { world with input } colorless disagreed
      rw [← unforced] at performed
      have ended : Instruction.outcome ⟨manner, .reset, input⟩ world = (.ok code, _) :=
        Instruction.outcome_of_perform performed
      rw [ended]
      refine ⟨_, settings, keeps.of_streams _ _ _, rfl, fun key => ?_⟩
      simp [Instruction.resets, Deed.setting?, unforced, disagreed]

/-- After commands a world keeps settings in which every option is as it was last set. -/
theorem World.Keeps.run {instructions : List Instruction}
    (keeps : world.Keeps ready directory place [])
    (colorless : ∀ instruction ∈ instructions, instruction.IsColorless world) :
    ∃ ready settings, (world.after instructions).Keeps ready directory place settings ∧
      (world.after instructions).surroundings = world.surroundings ∧
      ∀ key : OptionKey, settings.lookup key.name = lastSetting key instructions := by
  -- The induction is from the last command on, as `lastSetting` reads them.
  induction instructions using List.reverseRecOn with
  | nil => exact ⟨ready, [], keeps, rfl, fun _ => rfl⟩
  | append_singleton instructions instruction ih =>
    obtain ⟨before, last⟩ := List.forall_mem_append.mp colorless
    obtain ⟨ready, settings, kept, same, lookup⟩ := ih before
    -- No command changes the surroundings, so what is colourless at the start is so here.
    have colorless : instruction.IsColorless (world.after instructions) := by
      unfold Instruction.IsColorless
      rw [same]
      exact last instruction (List.mem_singleton_self instruction)
    obtain ⟨ready, next, kept, still, set⟩ := kept.step colorless
    have after : world.after (instructions ++ [instruction]) =
        (instruction.outcome (world.after instructions)).2 := by
      rw [World.after, List.foldl_append]
      rfl
    rw [after]
    refine ⟨ready, next, kept, still.trans same, fun key => ?_⟩
    rw [set, lastSetting_concat, lookup]

end Run

/-! ### Starting from nothing -/

/-- Nothing has been configured: the directory of the settings can be made, neither before nor
behind that anything stands at the path of the file in it, no file of a project stands in the
current directory, and no variable sets an option. -/
structure World.Unconfigured (world : World) (file : Path) (ready : World) : Prop where
  asked : outcome settingsFile world = (.ok file, ready)
  unstored : world.kind? file = none ∧ ready.kind? file = none
  projectless : ready.kind? ready.projectFile ≠ some .file
  unset : ∀ name ∈ optionVariables.map Prod.fst, world.environment.lookup name = none

/-- Where nothing has been configured, there are no settings. -/
theorem World.Unconfigured.exists_keeps {world ready : World} {file : Path}
    (unconfigured : world.Unconfigured file ready) :
    ∃ directory place, file = directory.child "config.json" ∧
      world.Keeps ready directory place [] := by
  obtain ⟨directory, place, rfl, settled⟩ := exists_isSettingsDirectory unconfigured.asked
  obtain ⟨before, behind⟩ := unconfigured.unstored
  have leads := isFileName_settings.locate_child settled.leads settled.stands
  have missing : ready.tree.item? (place ++ ["config.json"]) = none := by
    rw [World.kind?, leads] at behind
    exact Option.map_eq_none_iff.mp behind
  obtain ⟨result, tree, found⟩ := concernsFiles_settingsFile world
  have asked := (found world.input world.output world.diagnostics).symm.trans unconfigured.asked
  obtain ⟨rfl, rfl⟩ := Prod.mk.inj asked
  exact ⟨directory, place, rfl, unconfigured.asked,
    { toIsSettingsDirectory := settled
      nodup := List.nodup_nil
      holds := .inr ⟨missing, rfl⟩
      fit := fun _ _ member => absurd member List.not_mem_nil
      projectless := unconfigured.projectless
      unset := unconfigured.unset },
    (World.bytesAt?_eq_none behind).trans (World.bytesAt?_eq_none before).symm⟩

/-- After any commands the settings can be loaded, and every option is what it was last set to since
the last reset, or its default. A further command that sets an option misses exactly if what it is
to set is refused; then what is stored stays as it was. -/
theorem options_eq_lastSetting {world ready : World} {file : Path}
    (unconfigured : world.Unconfigured file ready) (instructions : List Instruction)
    (colorless : ∀ instruction ∈ instructions, instruction.IsColorless world) :
    (∃ settings, (outcome loadSettings (world.after instructions)).1 = .ok settings) ∧
    (∃ options, (outcome (resolveOptions []) (world.after instructions)).1 = .ok options ∧
      ∀ key, options.get key = (lastSetting key instructions).getD (Options.get {} key)) ∧
    ∀ manner name value input,
      Instruction.IsColorless ⟨manner, .set name value, input⟩ world →
      let further := Instruction.outcome ⟨manner, .set name value, input⟩ (world.after instructions)
      (further.1 = .ok 0 ↔ ¬Refused name value) ∧
      (further.1 = .ok 2 ∧ further.2.bytesAt? file = (world.after instructions).bytesAt? file ↔
        Refused name value) := by
  obtain ⟨directory, place, rfl, keeps⟩ := unconfigured.exists_keeps
  obtain ⟨ready, settings, kept, same, lookup⟩ := keeps.run colorless
  refine ⟨⟨settings, by rw [kept.outcome_loadSettings]⟩, ?_, ?_⟩
  · obtain ⟨options, resolved, get⟩ := kept.exists_outcome_resolveOptions
    refine ⟨options, by rw [resolved], fun key => ?_⟩
    rw [get, lookup]
  · intro manner name value input colorless
    have colorless : Instruction.IsColorless ⟨manner, .set name value, input⟩
        (world.after instructions) := by
      unfold Instruction.IsColorless at colorless ⊢
      rwa [same]
    dsimp only
    by_cases refused : Refused name value
    · obtain ⟨after, performed, -, -, bytes⟩ := exists_outcome_of_refused kept colorless refused
      rw [performed]
      exact ⟨iff_of_false (fun ended => by cases ended) (not_not.mpr refused),
        iff_of_true ⟨rfl, bytes⟩ refused⟩
    · cases known : OptionKey.ofName? name with
      | none => exact absurd (refused_of_ofName?_eq_none known) refused
      | some key =>
        obtain rfl := OptionKey.ofName?_eq_some_iff.mp known
        obtain ⟨after, performed, -⟩ := exists_outcome_of_accepted kept colorless refused
        rw [performed]
        exact ⟨iff_of_true rfl refused,
          iff_of_false (fun ⟨ended, _⟩ => by cases ended) refused⟩

/-! ### A home with commands -/

/-- A home in which there are settings of other programs only. -/
def freshHome : World where
  tree := ⟨[["home"], ["home", "ada"], ["home", "ada", ".config"]].map (·, .directory)⟩
  directory := ["home", "ada"]
  environment := [("HOME", "/home/ada"), ("NO_COLOR", "1")]
  system := "Linux"

/-- The directory of the settings in that home. -/
def freshDirectory : Path := .ofNames ["home", "ada", ".config", "clisynth"]

/-- The home once that directory is there. -/
def readyHome : World :=
  { freshHome with tree := freshHome.tree.put freshDirectory.names .directory }

theorem outcome_settingsFile_freshHome :
    outcome settingsFile freshHome = (.ok (freshDirectory.child "config.json"), readyHome) := by
  have asked : outcome (programDirectory "XDG_CONFIG_HOME" [".config"] ["." ++ programName])
      freshHome = (.ok freshDirectory, freshHome) := rfl
  have leads : freshHome.tree.locate freshHome.directory freshDirectory =
      .ok freshDirectory.names := by decide
  have made : outcome (Host.makeDirectory freshDirectory) freshHome = (.ok (), readyHome) := by
    rw [outcome_makeDirectory, leads]
    rfl
  have ready : outcome (makeDirectories freshDirectory) freshHome = (.ok (), readyHome) := by
    change outcome (tryCatch (Host.makeDirectory freshDirectory) _) freshHome = _
    rw [outcome_tryCatch, made]
  unfold settingsFile settingsDirectory makeReady
  rw [outcome_bind, outcome_bind_of_ok asked, outcome_bind_of_ok ready]
  rfl

theorem unconfigured_freshHome :
    freshHome.Unconfigured (freshDirectory.child "config.json") readyHome where
  asked := outcome_settingsFile_freshHome
  unstored := ⟨by decide, by decide⟩
  projectless := by
    have missing : readyHome.kind? readyHome.projectFile = none := by decide
    rw [missing]
    decide
  unset := by decide

/-- Commands in that home: two settings, one that is refused, a reset that is declined behind a line
that is no answer, and a reset that is forced between further settings. -/
def freshCommands : List Instruction :=
  [{ deed := .set "runnable" "yes" }, { deed := .set "lib" "argtide" },
    { manner := { isForced := true }, deed := .reset }, { deed := .set "lib" "cliff" },
    { deed := .set "lib" "class" }, { deed := .reset, input := .ok "what\nno\n" },
    { deed := .view }, { deed := .set "help" "no" }]

theorem options_eq_lastSetting_freshHome :
    freshHome.Unconfigured (freshDirectory.child "config.json") readyHome ∧
    (∀ instruction ∈ freshCommands, instruction.IsColorless freshHome) ∧
    (∃ options, (outcome (resolveOptions []) (freshHome.after freshCommands)).1 = .ok options ∧
      options.get .lib = .text "cliff" ∧ options.get .runnable = .truth false ∧
      options.get .help = .truth false) ∧
    (Instruction.outcome ⟨{}, .set "lib" "class", .ok ""⟩ (freshHome.after freshCommands)).1 =
      .ok 2 := by
  have colorless : ∀ instruction ∈ freshCommands, instruction.IsColorless freshHome := by
    simp [freshCommands, Instruction.IsColorless]
    decide
  have lib : lastSetting .lib freshCommands = some (.text "cliff") := by decide +kernel
  have runnable : lastSetting .runnable freshCommands = none := by decide +kernel
  have help : lastSetting .help freshCommands = some (.truth false) := by decide +kernel
  have refused : Refused "lib" "class" := by decide +kernel
  obtain ⟨-, ⟨options, resolved, get⟩, further⟩ :=
    options_eq_lastSetting unconfigured_freshHome freshCommands colorless
  refine ⟨unconfigured_freshHome, colorless, ⟨options, resolved, ?_, ?_, ?_⟩, ?_⟩
  · rw [get, lib, Option.getD_some]
  · rw [get, runnable, Option.getD_none]
    rfl
  · rw [get, help, Option.getD_some]
  · exact ((further {} "lib" "class" (.ok "") (by rfl)).2.mpr refused).1

end EntryPoint
