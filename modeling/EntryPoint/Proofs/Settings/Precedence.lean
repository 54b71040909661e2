/-
# Which layer of options wins

For each option the highest layer that has a value decides: what is given for the
run, a variable of the environment, the project, what is stored, and the default.
Only the values that win must fit their options, but no layer may set an unknown
one. A value that does not fit does harm exactly where no higher layer hides it.

## Main definitions

* `Layers` - what sets the options of a run.
* `Layers.winner` - the value that decides for an option.
* `Layers.Accepted` - every name is known, and every value that decides fits.
* `World.Sets` - the layers that a run finds in a world.

## Main results

* `Layers.lookup_merged` - the layers laid over each other hold the values that decide.
* `resolveOptions_eq_winner` - the options of a run, or its failure.
-/

import EntryPoint.Proofs.Document.Json.Keys
import EntryPoint.Proofs.Options.Merging
import EntryPoint.Proofs.Options.Names
import EntryPoint.Proofs.Settings.Layers
import EntryPoint.Proofs.Settings.Store

namespace EntryPoint

open Document Session

/-! ### Layers -/

/-- What sets the options of a run, from the highest layer to the lowest: what is given for it, the
variables of the environment, the entries of the project, and what is stored. -/
structure Layers where
  given : Overrides
  environment : List (String × String)
  project : Overrides
  stored : Settings

/-- The variable of the environment that sets an option, if there is one. -/
def OptionKey.environmentKey? : OptionKey → Option String
  | .lib => some "CLISYNTH_LIB"
  | .functionName => some "CLISYNTH_FUNCTION_NAME"
  | _ => none

/-- Whether a value sets anything where it is given. -/
def isGiven (value : Value) : Bool :=
  !(value matches .null)

namespace Layers

variable {layers : Layers} {key : OptionKey} {value : Value}

/-- The value of an option in the environment; the empty text is none. -/
def environment? (layers : Layers) (key : OptionKey) : Option Value :=
  ((key.environmentKey?.bind (layers.environment.lookup ·)).filter (· ≠ "")).map .text

/-- The values of an option in the layers, from the highest to the lowest. -/
def values (layers : Layers) (key : OptionKey) : List (Option Value) :=
  [(layers.given.lookup key.name).filter isGiven, layers.environment? key,
    layers.project.lookup key.name, (layers.stored.lookup key.name).map Setting.toValue]

/-- The value that decides for an option: of the highest layer that has one, or the default. -/
def winner (layers : Layers) (key : OptionKey) : Value :=
  ((layers.values key).findSome? id).getD (Options.get {} key).toValue

/-- The names that the layers set. -/
def names (layers : Layers) : List String :=
  (layers.given.filter fun entry => isGiven entry.2).map Prod.fst ++
    layers.project.map Prod.fst ++ layers.stored.map Prod.fst

/-- Every name that is set is one of an option, and every value that decides fits its option. -/
structure Accepted (layers : Layers) : Prop where
  named : ∀ name ∈ layers.names, ∃ key : OptionKey, name = key.name
  readable : ∀ key : OptionKey, ∃ setting, key.read (layers.winner key) = .ok setting

/-! ### Laid over each other -/

/-- What the environment sets. -/
def environmentOverrides (layers : Layers) : Overrides :=
  (optionVariables.map fun (name, key) =>
    variableLayer key (layers.environment.lookup name)).flatten

/-- The layers laid over each other. -/
def merged (layers : Layers) : Overrides :=
  layered layers.stored.toOverrides layers.project layers.environmentOverrides layers.given

/-- A variable that is empty or not set gives no layer. -/
theorem variableLayer_eq (key : OptionKey) (value : Option String) : variableLayer key value =
    ((value.filter (· ≠ "")).map fun value => (key.name, Value.text value)).toList := by
  rcases value with - | value
  · rfl
  · rcases eq_or_ne value "" with rfl | present
    · rfl
    · simp [variableLayer, present, Option.filter_some]

theorem environmentOverrides_eq (layers : Layers) : layers.environmentOverrides =
    variableLayer .lib (layers.environment.lookup "CLISYNTH_LIB") ++
      variableLayer .functionName (layers.environment.lookup "CLISYNTH_FUNCTION_NAME") := by
  simp [environmentOverrides, optionVariables]

theorem lookup_variableLayer (value : Option String) (name : String) :
    (variableLayer key value).lookup name =
      if name = key.name then (value.filter (· ≠ "")).map .text else none := by
  rw [variableLayer_eq]
  cases value.filter (· ≠ "") with
  | none => simp
  | some value =>
    by_cases same : name = key.name
    · simp [same]
    · simp [same, List.lookup_cons, beq_eq_false_iff_ne.mpr same]

/-- Of the environment only two variables count, each for its own option. -/
theorem lookup_environmentOverrides :
    layers.environmentOverrides.lookup key.name = layers.environment? key := by
  rw [environmentOverrides_eq, List.lookup_append, lookup_variableLayer, lookup_variableLayer]
  simp only [OptionKey.name_injective.eq_iff]
  cases key <;> simp [environment?, OptionKey.environmentKey?]

theorem mem_keys_variableLayer {value : Option String} {name : String}
    (member : name ∈ (variableLayer key value).map Prod.fst) : name = key.name := by
  rw [variableLayer_eq] at member
  simp at member
  exact member.2.symm

/-- Each variable sets an option of its own. -/
theorem nodup_environmentOverrides : (layers.environmentOverrides.map Prod.fst).Nodup := by
  have single (key : OptionKey) (value : Option String) :
      ((variableLayer key value).map Prod.fst).Nodup := by
    rw [variableLayer_eq]
    cases value.filter (· ≠ "") <;> simp
  rw [environmentOverrides_eq, List.map_append, List.nodup_append]
  refine ⟨single _ _, single _ _, fun name here other there same => ?_⟩
  obtain rfl := mem_keys_variableLayer here
  obtain rfl := mem_keys_variableLayer there
  cases OptionKey.name_injective same

theorem exists_key_of_mem_environmentOverrides {name : String}
    (member : name ∈ layers.environmentOverrides.map Prod.fst) :
    ∃ key : OptionKey, name = key.name := by
  rw [environmentOverrides_eq, List.map_append, List.mem_append] at member
  exact member.elim (fun here => ⟨_, mem_keys_variableLayer here⟩)
    fun there => ⟨_, mem_keys_variableLayer there⟩

/-- What is given as nothing does not hide what lies below it. -/
theorem lookup_filter_isGiven {given : Overrides} (nodup : (given.map Prod.fst).Nodup)
    (name : String) : (given.filter fun entry => isGiven entry.2).lookup name =
      (given.lookup name).filter isGiven := by
  induction given with
  | nil => rfl
  | cons first given ih =>
    obtain ⟨other, value⟩ := first
    obtain ⟨fresh, distinct⟩ := List.nodup_cons.mp nodup
    rw [List.filter_cons]
    by_cases here : name = other
    · subst here
      by_cases counts : isGiven value
      · simp [counts, Option.filter_some]
      -- A null is left out, and as names are distinct nothing behind it sets its name.
      · simp only [counts, Bool.false_eq_true, if_false, ih distinct, List.lookup_cons_self,
          Option.filter_some, Association.lookup_eq_none_of_notMem fresh, Option.filter_none]
    · have apart := beq_eq_false_iff_ne.mpr here
      rw [List.lookup_cons, apart, ← ih distinct]
      split
      · rw [List.lookup_cons, apart]
      · rfl

section Distinct

variable (given : (layers.given.map Prod.fst).Nodup) (project : (layers.project.map Prod.fst).Nodup)
include given project

/-- The layers laid over each other hold the values that decide. -/
theorem lookup_merged : layers.merged.lookup key.name = (layers.values key).findSome? id := by
  have nodup : ((layers.given.filter fun entry => isGiven entry.2).map Prod.fst).Nodup :=
    given.sublist (List.filter_sublist.map Prod.fst)
  -- The layers are laid from the lowest on, so that a name is looked up in the highest first.
  change (Association.update (Association.update (Association.update layers.stored.toOverrides
    layers.project) layers.environmentOverrides)
    (layers.given.filter fun entry => isGiven entry.2)).lookup key.name = _
  rw [Association.lookup_update nodup, Association.lookup_update nodup_environmentOverrides,
    Association.lookup_update project, lookup_filter_isGiven given, lookup_environmentOverrides,
    Settings.lookup_toOverrides]
  unfold values
  cases (layers.given.lookup key.name).filter isGiven <;> cases layers.environment? key <;>
    cases layers.project.lookup key.name <;> cases layers.stored.lookup key.name <;> rfl

/-- The winner of an option is what the merged layers hold for it, or its default. -/
theorem winner_eq : layers.winner key =
    (layers.merged.lookup key.name).getD (Options.get {} key).toValue := by
  rw [lookup_merged given project, winner]

omit given project in
/-- The names in the merged layers are those that some layer holds. -/
theorem exists_key_iff : (∀ name ∈ layers.merged.map Prod.fst, ∃ key : OptionKey, name = key.name) ↔
    ∀ name ∈ layers.names, ∃ key : OptionKey, name = key.name := by
  have stored : layers.stored.toOverrides.map Prod.fst = layers.stored.map Prod.fst := by
    simp [Settings.toOverrides, Function.comp_def]
  have member (name : String) : name ∈ layers.merged.map Prod.fst ↔
      name ∈ layers.names ∨ name ∈ layers.environmentOverrides.map Prod.fst := by
    change name ∈ (Association.update (Association.update (Association.update
      layers.stored.toOverrides layers.project) layers.environmentOverrides)
      (layers.given.filter fun entry => isGiven entry.2)).map Prod.fst ↔ _
    rw [Association.mem_map_fst_update_iff, Association.mem_map_fst_update_iff,
      Association.mem_map_fst_update_iff, stored, names, List.mem_append, List.mem_append]
    tauto
  simp only [member]
  exact ⟨fun known name named => known name (.inl named), fun known name named =>
    named.elim (known name) exists_key_of_mem_environmentOverrides⟩

/-- The merged layers fit exactly if all names are known and all winners can be read. -/
theorem fit_merged_iff : layers.merged.Fit ↔ layers.Accepted := by
  constructor
  · intro fit
    refine ⟨exists_key_iff.mp ?_, fun key => ?_⟩
    · intro name member
      obtain ⟨override, entered, rfl⟩ := List.mem_map.mp member
      exact fit.named override entered
    · rw [winner_eq given project]
      cases found : layers.merged.lookup key.name with
      | none => exact ⟨_, OptionKey.read_default key⟩
      | some value => exact fit.readable key value found
  · intro accepted
    refine ⟨fun override member =>
      exists_key_iff.mpr accepted.named _ (List.mem_map_of_mem member), fun key value found => ?_⟩
    have readable := accepted.readable key
    rwa [winner_eq given project, found] at readable

/-- The options that accepted layers give. -/
theorem Accepted.exists_ofOverrides (accepted : layers.Accepted) :
    ∃ options, Options.ofOverrides layers.merged = .ok options ∧
      ∀ key : OptionKey, key.read (layers.winner key) = .ok (options.get key) := by
  obtain ⟨options, merged, get⟩ :=
    Options.exists_ofOverrides ((fit_merged_iff given project).mpr accepted)
  refine ⟨options, merged, fun key => ?_⟩
  obtain ⟨setting, read⟩ := accepted.readable key
  rw [winner_eq given project] at read ⊢
  rw [get]
  cases found : layers.merged.lookup key.name with
  | none => exact OptionKey.read_default key
  | some value =>
    rw [found, Option.getD_some] at read
    simp only [Option.map_some, Option.getD_some, read]
    rfl

end Distinct

end Layers

/-! ### Layers in a world -/

/-- What the object of options of a project sets: its entries, and nothing where there is none that
counts as present. -/
inductive IsProjectLayer : Value → Overrides → Prop
  | absent {value : Value} (absent : value.isTruthy = false) : IsProjectLayer value []
  | entries (pairs : List (Value × Value)) : IsProjectLayer (.mapping pairs) (.ofPairs pairs)

/-- A world sets options by layers: what is given sets each option once, the variables are those of
the world, what is stored could be read, and so could the object of options of the project. -/
structure World.Sets (world : World) (layers : Layers) : Prop where
  given : (layers.given.map Prod.fst).Nodup
  environment : layers.environment = world.environment
  stored : (outcome loadSettings world).1 = .ok layers.stored
  project : ∃ document, (outcome loadProject (outcome loadSettings world).2).1 = .ok document ∧
    IsProjectLayer (Value.lookupD Settings.key (document.getD [])) layers.project

variable {world after : World} {layers : Layers} {pairs : List (Value × Value)}
  {project : Overrides}

/-- What is loaded as a project has each of its keys once. -/
theorem keyed_of_outcome_loadProject
    (loaded : outcome loadProject world = (.ok (some pairs), after)) :
    Value.Keyed (.mapping pairs) := by
  unfold loadProject at loaded
  obtain ⟨directory, _, -, loaded⟩ := exists_of_outcome_bind_eq_ok loaded
  obtain ⟨stands, _, -, loaded⟩ := exists_of_outcome_bind_eq_ok loaded
  split at loaded
  · obtain ⟨content, _, read, loaded⟩ := exists_of_outcome_bind_eq_ok loaded
    split at loaded
    · cases loaded
      exact keyed_of_outcome_readJsonFile read
    · cases loaded
    · cases loaded
  · cases loaded

/-- The object of a project sets each option once. -/
theorem IsProjectLayer.nodup {value : Value} (layer : IsProjectLayer value project)
    (keyed : value.Keyed) : (project.map Prod.fst).Nodup := by
  cases layer with
  | absent absent => exact List.nodup_nil
  | entries pairs =>
    obtain ⟨entries, rfl, nodup, -⟩ := keyed.exists_entries
    simpa [Overrides.ofPairs, pairsOf, Function.comp_def, Value.plainText] using nodup

theorem IsProjectLayer.projectLayer_eq
    (layer : IsProjectLayer (Value.lookupD Settings.key pairs) project) :
    projectLayer pairs = .ok project := by
  unfold projectLayer
  generalize Value.lookupD Settings.key pairs = value at layer
  cases layer with
  | absent absent => simp [absent]
  | entries pairs => cases pairs <;> rfl

/-- The layer of the environment is read from the variables of the world. -/
theorem outcome_environmentLayer_of_layers
    (environment : layers.environment = world.environment) :
    outcome environmentLayer world = (.ok layers.environmentOverrides, world) := by
  rw [World.outcome_environmentLayer, Layers.environmentOverrides, environment]

namespace World.Sets

theorem nodup_project (sets : world.Sets layers) : (layers.project.map Prod.fst).Nodup := by
  obtain ⟨document, loaded, layer⟩ := sets.project
  refine layer.nodup ?_
  cases document with
  | none => exact .null
  | some pairs => exact (keyed_of_outcome_loadProject (Prod.ext loaded rfl)).lookupD Settings.key

/-- The merged layers set each option once. -/
theorem nodup_merged (sets : world.Sets layers) : (layers.merged.map Prod.fst).Nodup := by
  have stored : (layers.stored.map Prod.fst).Nodup :=
    nodup_of_outcome_loadSettings (Prod.ext sets.stored rfl)
  have stored := Settings.nodup_toOverrides stored
  exact Association.nodup_update (Association.nodup_update (Association.nodup_update stored))

/-- The options of a run are those of its layers laid over each other. -/
theorem outcome_resolveOptions (sets : world.Sets layers) :
    (outcome (resolveOptions layers.given) world).1 = optionsOf layers.merged := by
  have prepares : Prepares [.configuration] loadSettings := prepares_loadSettings (by simp)
  have grown : world.Grown (outcome loadSettings world).2 := prepares.grown
  obtain ⟨document, loaded, layer⟩ := sets.project
  have stored : outcome loadSettings world = (.ok layers.stored, (outcome loadSettings world).2) :=
    Prod.ext sets.stored rfl
  generalize (outcome loadSettings world).2 = ready at grown loaded stored
  have prepares : Prepares [.configuration] loadProject := prepares_loadProject (by simp)
  have grown : world.Grown (outcome loadProject ready).2 := grown.trans prepares.grown
  have loaded : outcome loadProject ready = (.ok document, (outcome loadProject ready).2) :=
    Prod.ext loaded rfl
  generalize (outcome loadProject ready).2 = after at grown loaded
  -- What has been read so far leaves the environment as it was.
  have environment : layers.environment = after.environment :=
    sets.environment.trans grown.environment_eq.symm
  have merged : (outcome (environmentLayer >>= fun environment => orStop (optionsOf
      (layered layers.stored.toOverrides layers.project environment layers.given))) after).1 =
      optionsOf layers.merged := by
    rw [outcome_bind_of_ok (outcome_environmentLayer_of_layers environment), outcome_orStop]
    rfl
  unfold resolveOptions
  rw [outcome_bind_of_ok stored, outcome_bind_of_ok loaded]
  cases document with
  | none =>
    -- Without a document there is no object of options either, and both set nothing.
    have layer : projectLayer [] = .ok layers.project := layer.projectLayer_eq
    rw [show projectLayer [] = .ok [] from rfl] at layer
    rw [← Except.ok.inj layer] at merged
    dsimp only
    rw [outcome_bind_of_ok (outcome_pure [])]
    exact merged
  | some document =>
    have layer : projectLayer document = .ok layers.project := layer.projectLayer_eq
    have known : outcome (orStop (projectLayer document)) after = (.ok layers.project, after) := by
      rw [outcome_orStop, layer]
    dsimp only
    rw [outcome_bind_of_ok known]
    exact merged

variable {options : Options}

/-- The options of a run are what the values that decide read as. -/
theorem outcome_eq_ok_iff (sets : world.Sets layers) :
    (outcome (resolveOptions layers.given) world).1 = .ok options ↔
      layers.Accepted ∧
        ∀ key : OptionKey, key.read (layers.winner key) = .ok (options.get key) := by
  rw [sets.outcome_resolveOptions, optionsOf_eq_ok_iff sets.nodup_merged]
  constructor
  · intro resolved
    -- Options that were found were merged from values that fit.
    have fit : layers.merged.Fit := by
      by_contra unfit
      obtain ⟨rejection, rejected⟩ := Options.exists_ofOverrides_eq_error unfit
      rw [rejected] at resolved
      cases resolved
    have accepted := (Layers.fit_merged_iff sets.given sets.nodup_project).mp fit
    obtain ⟨others, merged, read⟩ := accepted.exists_ofOverrides sets.given sets.nodup_project
    rw [merged] at resolved
    cases resolved
    exact ⟨accepted, read⟩
  · rintro ⟨accepted, read⟩
    obtain ⟨others, merged, get⟩ := accepted.exists_ofOverrides sets.given sets.nodup_project
    rw [merged, Options.ext_get fun key => Except.ok.inj ((get key).symm.trans (read key))]

theorem exists_outcome_eq_error (sets : world.Sets layers) (rejected : ¬layers.Accepted) :
    ∃ message, (outcome (resolveOptions layers.given) world).1 =
      .error (.failure { kind := .configuration, message }) := by
  have unfit : ¬layers.merged.Fit := fun fit =>
    rejected ((Layers.fit_merged_iff sets.given sets.nodup_project).mp fit)
  obtain ⟨rejection, found⟩ := exists_optionsOf_eq_error sets.nodup_merged unfit
  refine ⟨"Invalid render options: " ++ rejection.text, ?_⟩
  rw [sets.outcome_resolveOptions, found]
  rfl

end World.Sets

/-! ### Values that others hide -/

namespace Layers

variable {layers other : Layers} {key : OptionKey} {higher lower : List (Option Value)}
  {value : Value} {here : Option Value}

/-- Layers that set the same but for the values of one option. -/
structure SameBut (layers other : Layers) (key : OptionKey) : Prop where
  named : ∀ name, (∀ key : OptionKey, name ≠ key.name) → (name ∈ layers.names ↔ name ∈ other.names)
  elsewhere : ∀ third ≠ key, layers.values third = other.values third

/-- Behind a value of a higher layer, no value decides. -/
theorem winner_eq_of_hidden (split : layers.values key = higher ++ here :: lower)
    (hidden : ∃ value, some value ∈ higher) :
    layers.winner key = (higher.findSome? id).getD (Options.get {} key).toValue := by
  obtain ⟨value, member⟩ := hidden
  unfold winner
  rw [split, List.findSome?_append]
  cases found : higher.findSome? id with
  | none => cases List.findSome?_eq_none_iff.mp found _ member
  | some winner => rfl

/-- A value that no higher layer hides decides. -/
theorem winner_eq_of_unhidden (split : layers.values key = higher ++ some value :: lower)
    (unhidden : ¬∃ value, some value ∈ higher) : layers.winner key = value := by
  have none : higher.findSome? id = none := by
    rw [List.findSome?_eq_none_iff]
    intro value member
    cases value with
    | none => rfl
    | some value => exact absurd ⟨value, member⟩ unhidden
  unfold winner
  rw [split, List.findSome?_append, none]
  rfl

theorem SameBut.named_iff (same : layers.SameBut other key) :
    (∀ name ∈ layers.names, ∃ key : OptionKey, name = key.name) ↔
      ∀ name ∈ other.names, ∃ key : OptionKey, name = key.name := by
  constructor
  · intro known name member
    by_contra! unknown
    obtain ⟨key, equal⟩ := known name ((same.named name unknown).mpr member)
    exact unknown key equal
  · intro known name member
    by_contra! unknown
    obtain ⟨key, equal⟩ := known name ((same.named name unknown).mp member)
    exact unknown key equal

/-- What a higher layer hides has no part in whether layers are accepted and in what decides. -/
theorem SameBut.winner_eq (same : layers.SameBut other key) {there : Option Value}
    (split : layers.values key = higher ++ here :: lower)
    (replaced : other.values key = higher ++ there :: lower)
    (hidden : ∃ value, some value ∈ higher) (third : OptionKey) :
    layers.winner third = other.winner third := by
  rcases eq_or_ne third key with rfl | apart
  · rw [winner_eq_of_hidden split hidden, winner_eq_of_hidden replaced hidden]
  · rw [winner, winner, same.elsewhere third apart]

theorem SameBut.accepted_iff (same : layers.SameBut other key)
    (winners : ∀ third, layers.winner third = other.winner third) :
    layers.Accepted ↔ other.Accepted := by
  constructor
  · rintro ⟨named, readable⟩
    exact ⟨same.named_iff.mp named, fun third => winners third ▸ readable third⟩
  · rintro ⟨named, readable⟩
    exact ⟨same.named_iff.mpr named, fun third => (winners third).symm ▸ readable third⟩

end Layers

/-- The options of a run are found exactly where every name that a layer sets is one of an option
and every value that decides fits, and then they are what those values read as. Anything else is a
failure of the configuration: so is an unknown name in any layer, and so is a value that does not
fit unless a higher layer hides it, behind which any value or none comes to the same. -/
theorem resolveOptions_eq_winner {world : World} {layers : Layers} (sets : world.Sets layers) :
    ((∃ options, (outcome (resolveOptions layers.given) world).1 = .ok options) ↔
      layers.Accepted) ∧
    (∀ options, (outcome (resolveOptions layers.given) world).1 = .ok options →
      ∀ key : OptionKey, key.read (layers.winner key) = .ok (options.get key)) ∧
    (¬layers.Accepted → ∃ message, (outcome (resolveOptions layers.given) world).1 =
      .error (.failure { kind := .configuration, message })) ∧
    (∀ name ∈ layers.names, (∀ key : OptionKey, name ≠ key.name) →
      ∃ message, (outcome (resolveOptions layers.given) world).1 =
        .error (.failure { kind := .configuration, message })) ∧
    ∀ key higher value lower, layers.values key = higher ++ some value :: lower →
      (∀ setting, key.read value ≠ .ok setting) →
      ((¬∃ masking, some masking ∈ higher) →
        ∃ message, (outcome (resolveOptions layers.given) world).1 =
          .error (.failure { kind := .configuration, message })) ∧
      ((∃ masking, some masking ∈ higher) →
        ∀ elsewhere others replaced, World.Sets elsewhere others → layers.SameBut others key →
          others.values key = higher ++ replaced :: lower →
          (outcome (resolveOptions layers.given) world).1.toOption =
            (outcome (resolveOptions others.given) elsewhere).1.toOption) := by
  refine ⟨⟨?_, ?_⟩, ?_, sets.exists_outcome_eq_error, ?_, ?_⟩
  · rintro ⟨options, resolved⟩
    exact (sets.outcome_eq_ok_iff.mp resolved).1
  · intro accepted
    obtain ⟨options, -, read⟩ := accepted.exists_ofOverrides sets.given sets.nodup_project
    exact ⟨options, sets.outcome_eq_ok_iff.mpr ⟨accepted, read⟩⟩
  · exact fun options resolved => (sets.outcome_eq_ok_iff.mp resolved).2
  · intro name member unknown
    refine sets.exists_outcome_eq_error fun accepted => ?_
    obtain ⟨key, same⟩ := accepted.named name member
    exact unknown key same
  · intro key higher value lower split unreadable
    refine ⟨fun unhidden => sets.exists_outcome_eq_error fun accepted => ?_, ?_⟩
    · obtain ⟨setting, read⟩ := accepted.readable key
      rw [Layers.winner_eq_of_unhidden split unhidden] at read
      exact unreadable setting read
    · intro hidden elsewhere others replaced sets' same split'
      -- The same values decide in both, so that they give the same options or none.
      have winners := same.winner_eq split split' hidden
      ext options
      rw [toOption_eq_some_iff, toOption_eq_some_iff, sets.outcome_eq_ok_iff,
        sets'.outcome_eq_ok_iff, same.accepted_iff winners]
      simp only [winners]

/-! ### A home with every layer -/

/-- What a project sets, as it would be stored: a value of the one option does not fit. -/
def homeProject : Settings := [("lib", .truth false), ("help", .text "no")]

/-- Layers of which two have a value that does not fit, hidden by a variable. -/
def homeLayers : Layers where
  given := [("lib", .null), ("strict", .text "off")]
  environment := [("HOME", "/home/ada"), ("CLISYNTH_LIB", "argtide")]
  project := homeProject.toOverrides
  stored := [("lib", .text "class"), ("function_name", .text "main")]

/-- A home with those layers. -/
def layeredHome : World where
  tree := ⟨[(["home"], .directory), (["home", "ada"], .directory),
    (["home", "ada", "clisynth.json"], .file (Text.utf8Bytes homeProject.documentText)),
    (["home", "ada", ".config"], .directory), (["home", "ada", ".config", "clisynth"], .directory),
    (["home", "ada", ".config", "clisynth", "config.json"],
      .file (Text.utf8Bytes homeLayers.stored.documentText))]⟩
  directory := ["home", "ada"]
  environment := homeLayers.environment
  system := "Linux"

theorem stores_layeredHome : layeredHome.Stores (.ofNames ["home", "ada", ".config", "clisynth"])
    ["home", "ada", ".config", "clisynth"] homeLayers.stored where
  leads := by decide
  stands := rfl
  asked := rfl
  nodup := by decide
  holds := .inl rfl

theorem outcome_loadProject_layeredHome : outcome loadProject layeredHome =
    (.ok (some [(.text Settings.key, homeProject.toValue)]), layeredHome) := by
  have leads : layeredHome.tree.locate layeredHome.directory
      ((Path.ofNames layeredHome.directory).child projectFileName) =
        .ok ["home", "ada", "clisynth.json"] := by decide
  have stands : layeredHome.tree.item? ["home", "ada", "clisynth.json"] =
      some (.file (Text.utf8Bytes homeProject.documentText)) := rfl
  have file : layeredHome.kind? ((Path.ofNames layeredHome.directory).child projectFileName) =
      some .file := World.kind?_eq_file_iff.mpr ⟨_, _, leads, stands⟩
  have nodup : (homeProject.map Prod.fst).Nodup := by decide
  have read : outcome (readJsonFile ((Path.ofNames layeredHome.directory).child projectFileName))
      layeredHome = (.ok (.ok (.mapping [(.text Settings.key, homeProject.toValue)])),
        layeredHome) := by
    unfold readJsonFile
    rw [outcome_bind_of_ok (outcome_readTextFile leads stands
      (Settings.carriage_notMem_documentText nodup))]
    dsimp only
    rw [Settings.readJson_documentText nodup]
    rfl
  unfold loadProject
  rw [outcome_bind_of_ok outcome_directory, outcome_bind_of_ok (outcome_isFile _), file,
    if_pos (by decide), outcome_bind_of_ok read]
  rfl

theorem sets_layeredHome : layeredHome.Sets homeLayers where
  given := by decide
  environment := rfl
  stored := by rw [stores_layeredHome.outcome_loadSettings]
  project := by
    rw [stores_layeredHome.outcome_loadSettings]
    exact ⟨_, congrArg Prod.fst outcome_loadProject_layeredHome, .entries _⟩

theorem read_homeLayers (key : OptionKey) : key.read (homeLayers.winner key) =
    .ok (match key with
      | .lib => .text "argtide"
      | .functionName => .text "main"
      | .strict | .help => .truth false
      | other => Options.get {} other) := by
  cases key with
  | lib => exact OptionKey.read_text rfl (by decide)
  | functionName => exact OptionKey.read_text rfl (by decide)
  | strict => decide +kernel
  | help => decide +kernel
  | _ => rfl

theorem accepted_homeLayers : homeLayers.Accepted where
  named name member := by
    have known : name ∈ ["strict", "lib", "help", "lib", "function_name"] := member
    simp only [List.mem_cons, List.not_mem_nil, or_false] at known
    rcases known with rfl | rfl | rfl | rfl | rfl
    · exact ⟨.strict, rfl⟩
    · exact ⟨.lib, rfl⟩
    · exact ⟨.help, rfl⟩
    · exact ⟨.lib, rfl⟩
    · exact ⟨.functionName, rfl⟩
  readable key := ⟨_, read_homeLayers key⟩

theorem resolveOptions_layeredHome : layeredHome.Sets homeLayers ∧
    ∃ options, (outcome (resolveOptions homeLayers.given) layeredHome).1 = .ok options ∧
      options.get .lib = .text "argtide" ∧ options.get .functionName = .text "main" ∧
      options.get .strict = .truth false ∧ options.get .help = .truth false ∧
      options.get .runnable = .truth false := by
  obtain ⟨accepts, read, -⟩ := resolveOptions_eq_winner sets_layeredHome
  obtain ⟨options, resolved⟩ := accepts.mpr accepted_homeLayers
  have get (key : OptionKey) :=
    Except.ok.inj ((read options resolved key).symm.trans (read_homeLayers key))
  exact ⟨sets_layeredHome, options, resolved, get .lib, get .functionName, get .strict, get .help,
    get .runnable⟩

end EntryPoint
