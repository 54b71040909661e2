/-
# Names among the options

Overrides are read one by one, and the two options that are names accept only
names that a module can bind. So do their defaults: whatever the overrides, both
names can be bound in the end.
-/

import EntryPoint.Options
import EntryPoint.Proofs.Outcome
import Mathlib.Tactic.SplitIfs

namespace EntryPoint

open Text

/-- Both names can be bound. -/
structure Options.NamesBindable (options : Options) : Prop where
  lib : isBindable options.lib
  functionName : isBindable options.functionName

theorem Options.namesBindable_default : Options.NamesBindable {} :=
  ⟨by decide, by decide⟩

/-- A text that can be bound fits an option that is a name. -/
theorem OptionKey.read_text {key : OptionKey} {name : String} (named : key.isName)
    (bindable : isBindable name) : key.read (.text name) = .ok (.text name) := by
  simp [OptionKey.read, named, readName, readText, bindable, bind, Except.bind, Functor.map,
    Except.map]

/-- Options whose names can be bound read back as they are. -/
theorem OptionKey.read_get {options : Options} (names : options.NamesBindable) (key : OptionKey) :
    key.read (options.get key).toValue = .ok (options.get key) := by
  cases key with
  | lib => exact read_text rfl names.lib
  | functionName => exact read_text rfl names.functionName
  | _ => rfl

/-- Every default fits its option. -/
theorem OptionKey.read_default (key : OptionKey) :
    key.read (Options.get {} key).toValue = .ok (Options.get {} key) :=
  read_get Options.namesBindable_default key

/-- A setting that was read for a name can be bound. -/
theorem OptionKey.isBindable_of_read {key : OptionKey} {value : Document.Value} {name : String}
    (read : key.read value = .ok (.text name)) : isBindable name := by
  unfold OptionKey.read at read
  split_ifs at read with named
  · cases found : readName value with
    | error kind => rw [found] at read; cases read
    | ok text =>
      rw [found] at read
      cases read
      -- Only the reader of names can have given a text, and it gives back what it has checked.
      unfold readName at found
      obtain ⟨text, -, checked⟩ := bind_eq_ok_iff.mp found
      split_ifs at checked with bindable
      cases checked
      exact bindable
  · cases found : readTruth value with
    | error kind => rw [found] at read; cases read
    | ok truth => rw [found] at read; cases read

/-- Setting an option keeps the names bindable if a text that is set is. -/
theorem Options.NamesBindable.set {options : Options} (names : options.NamesBindable)
    {key : OptionKey} {setting : Setting}
    (bindable : ∀ name, setting = .text name → isBindable name) :
    (options.set key setting).NamesBindable := by
  obtain ⟨lib, functionName⟩ := names
  cases setting with
  | truth value => cases key <;> exact ⟨lib, functionName⟩
  | text name =>
    have bindable := bindable name rfl
    cases key with
    | lib => exact ⟨bindable, functionName⟩
    | functionName => exact ⟨lib, bindable⟩
    | _ => exact ⟨lib, functionName⟩

/-- One override keeps the names bindable. -/
theorem Options.NamesBindable.applyOverride {options : Options} (names : options.NamesBindable)
    (overrides : Overrides) (key : OptionKey) :
    (Options.applyOverride overrides options key).NamesBindable := by
  unfold Options.applyOverride
  split
  · rename_i setting found
    obtain ⟨value, -, read⟩ := Option.map_eq_some_iff.mp found
    refine names.set fun name same => ?_
    subst same
    exact OptionKey.isBindable_of_read read
  · exact names

/-- Whatever the overrides, both names can be bound in the end. -/
theorem Options.namesBindable_of_ofOverrides {overrides : Overrides} {options : Options}
    (merged : Options.ofOverrides overrides = .ok options) : options.NamesBindable := by
  -- Overriding one option after another keeps the names bindable.
  have kept (keys : List OptionKey) (start : Options) (names : start.NamesBindable) :
      (keys.foldl (Options.applyOverride overrides) start).NamesBindable := by
    induction keys generalizing start with
    | nil => exact names
    | cons key keys ih => exact ih _ (names.applyOverride overrides key)
  unfold Options.ofOverrides at merged
  split at merged
  · cases merged
    exact kept _ _ Options.namesBindable_default
  · cases merged

theorem Options.namesBindable_of_merge {source : OptionsSource} {merged : GivenOptions}
    (accepted : Options.merge source = .ok merged) : merged.options.NamesBindable := by
  unfold Options.merge GivenOptions.ofOverrides at accepted
  obtain ⟨options, read, made⟩ := bind_eq_ok_iff.mp accepted
  cases made
  exact Options.namesBindable_of_ofOverrides read

end EntryPoint
