/-
# Overrides laid over the defaults

Overrides are accepted exactly when each of them names an option and each option
that is overridden can read its value. Then every option is what its override
reads as, or its default without one.

## Main definitions

* `Overrides.Fit` - every override names an option that can read its value.

## Main results

* `Options.ofOverrides_eq_error` - overrides that do not fit are rejected.
* `Options.exists_ofOverrides` - the options that fitting overrides give.
* `Settings.Fit`, `Settings.exists_ofOverrides` - the same for settings.
-/

import EntryPoint.Options
import EntryPoint.Proofs.Association
import EntryPoint.Proofs.Outcome
import EntryPoint.Settings.Store
import Mathlib.Tactic.SplitIfs

namespace EntryPoint

open Document

/-! ### Options -/

namespace OptionKey

theorem mem_all (key : OptionKey) : key ∈ all := by
  cases key <;> decide

theorem nodup_all : all.Nodup := by
  decide

theorem ofName?_name (key : OptionKey) : ofName? key.name = some key := by
  cases key <;> rfl

theorem ofName?_eq_some_iff {name : String} {key : OptionKey} :
    ofName? name = some key ↔ name = key.name := by
  constructor
  · intro found
    have same : key.name = name := by simpa using List.find?_some found
    exact same.symm
  · rintro rfl
    exact ofName?_name key

theorem name_injective : Function.Injective name := by
  intro key other same
  exact Option.some.inj ((ofName?_name key).symm.trans (same ▸ ofName?_name other))

end OptionKey

/-- What an option reads is of its kind. -/
theorem OptionKey.kind_of_read {key : OptionKey} {value : Value} {setting : Setting}
    (read : key.read value = .ok setting) :
    (key.isName ∧ ∃ name, setting = .text name) ∨
      (¬key.isName ∧ ∃ truth, setting = .truth truth) := by
  unfold OptionKey.read at read
  split_ifs at read with named
  · cases found : readName value with
    | error kind => rw [found] at read; cases read
    | ok name =>
      rw [found] at read
      cases read
      exact .inl ⟨named, name, rfl⟩
  · cases found : readTruth value with
    | error kind => rw [found] at read; cases read
    | ok truth =>
      rw [found] at read
      cases read
      exact .inr ⟨named, truth, rfl⟩

namespace Options

variable {options : Options} {overrides : Overrides} {key other : OptionKey} {value : Value}
  {setting : Setting}

/-- Options are what they are set to. -/
theorem ext_get {options other : Options} (same : ∀ key, options.get key = other.get key) :
    options = other := by
  have lib := same .lib
  have functionName := same .functionName
  have strict := same .strict
  have help := same .help
  have helpAlias := same .helpAlias
  have version := same .version
  have asyncFunction := same .asyncFunction
  have runnable := same .runnable
  cases options
  cases other
  simp_all [Options.get]

/-- Setting an option to what it read changes that option alone. -/
theorem get_set_of_read (read : key.read value = .ok setting) :
    (options.set key setting).get other = if other = key then setting else options.get other := by
  -- What was read is of the kind of the option, so it is set and not ignored.
  rcases OptionKey.kind_of_read read with ⟨named, name, rfl⟩ | ⟨named, truth, rfl⟩
  · cases key with
    | lib => cases other <;> rfl
    | functionName => cases other <;> rfl
    | _ => cases named
  · cases key with
    | lib => exact absurd rfl named
    | functionName => exact absurd rfl named
    | _ => cases other <;> rfl

/-! ### Overrides -/

end Options

/-- Every override names an option, and every option that is overridden can read its value. -/
structure Overrides.Fit (overrides : Overrides) : Prop where
  named : ∀ override ∈ overrides, ∃ key : OptionKey, override.1 = key.name
  readable : ∀ (key : OptionKey) value, overrides.lookup key.name = some value →
    ∃ setting, key.read value = .ok setting

theorem Overrides.fit_nil : Overrides.Fit [] where
  named _ member := absurd member List.not_mem_nil
  readable _ _ found := by cases found

/-- Overrides fit again once another option reads what overrides it. -/
theorem Overrides.Fit.insert {overrides : Overrides} {key : OptionKey} {value : Value}
    {setting : Setting} (fit : overrides.Fit) (read : key.read value = .ok setting) :
    Overrides.Fit (Association.insert overrides key.name value) where
  named override member := by
    rcases Association.mem_insert member with rfl | before
    · exact ⟨key, rfl⟩
    · exact fit.named override before
  readable other value' found := by
    rw [Association.lookup_insert] at found
    split_ifs at found with same
    · obtain rfl := OptionKey.name_injective same
      cases found
      exact ⟨setting, read⟩
    · exact fit.readable other value' found

namespace Options

variable {options : Options} {overrides : Overrides} {key other : OptionKey} {value : Value}
  {setting : Setting}

theorem violation?_eq_none_iff : violation? overrides key = none ↔
    ∀ value, overrides.lookup key.name = some value → ∃ setting, key.read value = .ok setting := by
  unfold violation?
  cases overrides.lookup key.name with
  | none => simp
  | some value =>
    cases read : key.read value with
    | error kind => simp [read]
    | ok setting => simp [read]

/-- Overrides have no violation exactly when they fit. -/
theorem violations_eq_nil_iff : violations overrides = [] ↔ overrides.Fit := by
  unfold violations
  rw [List.append_eq_nil_iff, List.filterMap_eq_nil_iff, List.map_eq_nil_iff,
    List.filter_eq_nil_iff]
  constructor
  -- There are two kinds of violations: a value that cannot be read, and a name that is no option.
  · rintro ⟨readable, named⟩
    refine ⟨fun override member => ?_, fun key =>
      violation?_eq_none_iff.mp (readable key key.mem_all)⟩
    have known := named override member
    obtain ⟨key, found⟩ := Option.ne_none_iff_exists'.mp (by simpa using known)
    exact ⟨key, OptionKey.ofName?_eq_some_iff.mp found⟩
  · rintro ⟨named, readable⟩
    refine ⟨fun key _ => violation?_eq_none_iff.mpr (readable key), fun override member => ?_⟩
    obtain ⟨key, same⟩ := named override member
    simp [OptionKey.ofName?_eq_some_iff.mpr same]

/-- What an option is under overrides: what its override reads as, or as it was. -/
theorem get_applyOverride (fit : overrides.Fit) :
    (applyOverride overrides options key).get other =
      if other = key then
        (((overrides.lookup key.name).map key.read).bind Except.toOption).getD (options.get key)
      else options.get other := by
  unfold applyOverride
  cases found : overrides.lookup key.name with
  | none =>
    split_ifs with same
    · rw [same]
      rfl
    · rfl
  | some value =>
    obtain ⟨setting, read⟩ := fit.readable key value found
    simp only [Option.map_some, read]
    rw [get_set_of_read read]
    rfl

/-- Options are overridden one by one, each independently of the others. -/
theorem get_foldl_applyOverride (fit : overrides.Fit) {keys : List OptionKey}
    (nodup : keys.Nodup) :
    (keys.foldl (applyOverride overrides) options).get key =
      if key ∈ keys then
        (((overrides.lookup key.name).map key.read).bind Except.toOption).getD (options.get key)
      else options.get key := by
  induction keys generalizing options with
  | nil => simp
  | cons first keys ih =>
    obtain ⟨fresh, nodup⟩ := List.nodup_cons.mp nodup
    rw [List.foldl_cons, ih nodup, get_applyOverride fit]
    -- No option is overridden twice, so what is set here is not set again.
    by_cases same : key = first
    · subst same
      simp [fresh]
    · simp [same]

/-- Overrides that fit are accepted. -/
theorem exists_ofOverrides (fit : overrides.Fit) :
    ∃ options, ofOverrides overrides = .ok options ∧ ∀ key,
      options.get key = (((overrides.lookup key.name).map key.read).bind Except.toOption).getD
        (Options.get {} key) := by
  refine ⟨OptionKey.all.foldl (applyOverride overrides) {}, ?_, fun key => ?_⟩
  · unfold ofOverrides
    rw [violations_eq_nil_iff.mpr fit]
  · rw [get_foldl_applyOverride fit OptionKey.nodup_all, if_pos key.mem_all]

/-- Overrides that do not fit are rejected. -/
theorem exists_ofOverrides_eq_error (unfit : ¬overrides.Fit) :
    ∃ rejection, ofOverrides overrides = .error rejection := by
  unfold ofOverrides
  cases found : violations overrides with
  | nil => exact absurd (violations_eq_nil_iff.mp found) unfit
  | cons first others => exact ⟨_, rfl⟩

end Options

/-! ### Settings -/

namespace Settings

variable {settings : Settings} {key : OptionKey} {setting : Setting}

theorem lookup_toOverrides (settings : Settings) (name : String) :
    settings.toOverrides.lookup name = (settings.lookup name).map Setting.toValue := by
  induction settings with
  | nil => rfl
  | cons first settings ih =>
    change ((first.1, first.2.toValue) :: toOverrides settings).lookup name = _
    rw [List.lookup_cons, List.lookup_cons, ih]
    cases name == first.1 <;> rfl

theorem toOverrides_insert (settings : Settings) (name : String) (setting : Setting) :
    toOverrides (Association.insert settings name setting) =
      Association.insert settings.toOverrides name setting.toValue := by
  induction settings with
  | nil => rfl
  | cons first settings ih =>
    change toOverrides (Association.insert (first :: settings) name setting) =
      Association.insert ((first.1, first.2.toValue) :: toOverrides settings) name setting.toValue
    rw [Association.insert, Association.insert]
    split_ifs with here
    · rfl
    · rw [← ih]
      rfl

/-- Every setting is one of an option that reads it as it is. -/
def Fit (settings : Settings) : Prop :=
  ∀ name setting, (name, setting) ∈ settings →
    ∃ key : OptionKey, name = key.name ∧ key.read setting.toValue = .ok setting

theorem Fit.read_of_lookup (fit : settings.Fit) (found : settings.lookup key.name = some setting) :
    key.read setting.toValue = .ok setting := by
  -- A setting is found under the name of its own option, as no two options share a name.
  obtain ⟨before, behind, split, -⟩ := List.lookup_eq_some_iff.mp found
  obtain ⟨other, same, read⟩ := fit key.name setting (by rw [split]; simp)
  rwa [OptionKey.name_injective same]

theorem Fit.toOverrides (fit : settings.Fit) : settings.toOverrides.Fit where
  named override member := by
    obtain ⟨⟨name, setting⟩, entered, rfl⟩ := List.mem_map.mp member
    obtain ⟨key, same, -⟩ := fit name setting entered
    exact ⟨key, same⟩
  readable key value found := by
    rw [lookup_toOverrides] at found
    obtain ⟨setting, entered, rfl⟩ := Option.map_eq_some_iff.mp found
    exact ⟨setting, fit.read_of_lookup entered⟩

/-- The options that settings give: what they say, and the defaults. -/
theorem Fit.exists_ofOverrides (fit : settings.Fit) :
    ∃ options, Options.ofOverrides settings.toOverrides = .ok options ∧
      ∀ key : OptionKey,
        options.get key = (settings.lookup key.name).getD (Options.get {} key) := by
  obtain ⟨options, accepted, get⟩ := Options.exists_ofOverrides fit.toOverrides
  refine ⟨options, accepted, fun key => ?_⟩
  rw [get, lookup_toOverrides]
  cases found : settings.lookup key.name with
  | none => rfl
  | some setting =>
    simp only [Option.map_some, fit.read_of_lookup found]
    rfl

/-- Settings fit again once another option reads what it is set to. -/
theorem Fit.insert (fit : settings.Fit) (read : key.read setting.toValue = .ok setting) :
    Fit (Association.insert settings key.name setting) := by
  intro name other member
  rcases Association.mem_insert member with same | before
  · cases same
    exact ⟨key, rfl, read⟩
  · exact fit name other before

/-- A setting that its option cannot read does not fit. -/
theorem not_fit_insert (settings : Settings)
    (unreadable : ∀ other, key.read setting.toValue ≠ .ok other) :
    ¬Overrides.Fit (toOverrides (Association.insert settings key.name setting)) := by
  intro fit
  have found : (toOverrides (Association.insert settings key.name setting)).lookup key.name =
      some setting.toValue := by
    rw [lookup_toOverrides, Association.lookup_insert, if_pos rfl]
    rfl
  obtain ⟨other, read⟩ := fit.readable key _ found
  exact unreadable other read

end Settings

end EntryPoint
