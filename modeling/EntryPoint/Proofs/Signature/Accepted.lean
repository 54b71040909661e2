/-
# Accepted signatures

The check of a signature goes through its names one after another. What it
establishes in the end does not depend on that order: names can be bound, no two
arguments share one, and none is a name that the callbacks use for themselves.

## Main definitions

* `Signature.Accepted` - what the check of a signature establishes.

## Main results

* `checkSignature_eq_ok_iff` - the check succeeds exactly on accepted signatures.
-/

import EntryPoint.Command
import EntryPoint.Proofs.Outcome
import Mathlib.Tactic.SplitIfs

namespace EntryPoint

open Syntax Text

namespace Signature

/-- The names of the positionals in order. -/
def positionalNames (signature : Signature) : List String :=
  signature.positionals.map (·.name)

/-- The names of the options in order. -/
def optionNames (signature : Signature) : List String :=
  signature.options.map (·.name)

/-- What the check of a signature establishes. -/
structure Accepted (signature : Signature) : Prop where
  name_bindable : isBindable signature.name
  name_unshadowed : signature.name ∉ shadowingNames signature
  positional_bindable : ∀ name ∈ signature.positionalNames, isBindable name
  positional_unreserved : ∀ name ∈ signature.positionalNames, name ∉ positionalReserved signature
  positional_required : ∀ positional ∈ signature.positionals, positional.required
  positional_nodup : signature.positionalNames.Nodup
  option_nodup : signature.optionNames.Nodup
  option_unpositioned : ∀ name ∈ signature.optionNames, name ∉ signature.positionalNames

end Signature

variable {signature : Signature} {seen : List String}

/-! ### The parts of the check -/

theorem checkName_eq_ok_iff :
    checkName signature = .ok () ↔
      isBindable signature.name ∧ signature.name ∉ shadowingNames signature := by
  unfold checkName
  split_ifs with unbindable shadowed
  · simp_all [fail]
  · simp_all [fail]
  · simp_all

theorem checkPositional_eq_ok_iff {positional : Positional} :
    checkPositional signature seen positional = .ok () ↔
      isBindable positional.name ∧ positional.name ∉ seen ∧
        positional.name ∉ positionalReserved signature ∧ positional.required := by
  unfold checkPositional
  dsimp only
  split_ifs with unbindable repeated reserved optional
  · simp_all [fail]
  · simp_all [fail]
  · simp_all [fail]
  · simp_all [fail]
  · simp_all

/-- The names seen so far are those that the remaining positionals must avoid. -/
theorem checkPositionals_eq_ok_iff {positionals : List Positional} :
    checkPositionals signature seen positionals = .ok () ↔
      (∀ positional ∈ positionals, isBindable positional.name ∧ positional.name ∉ seen ∧
        positional.name ∉ positionalReserved signature ∧ positional.required) ∧
      (positionals.map (·.name)).Nodup := by
  induction positionals generalizing seen with
  | nil => simp [checkPositionals]
  | cons first rest ih =>
    rw [checkPositionals, check_bind_eq_ok_iff]
    -- A name that is not seen later is one that is apart from those behind it.
    simp only [checkPositional_eq_ok_iff, ih, List.mem_cons, List.map_cons, List.nodup_cons,
      List.mem_map]
    grind

theorem checkOptions_eq_ok_iff {positionals : List String} {options : List Flag} :
    checkOptions positionals seen options = .ok () ↔
      (∀ option ∈ options, option.name ∉ seen ∧ option.name ∉ positionals) ∧
      (options.map (·.name)).Nodup := by
  induction options generalizing seen with
  | nil => simp [checkOptions]
  | cons first rest ih =>
    rw [checkOptions]
    split_ifs with repeated positioned
    · simp_all [fail]
    · simp_all [fail]
    · simp only [ih, List.mem_cons, List.map_cons, List.nodup_cons, List.mem_map]
      simp only [List.contains_iff_mem] at repeated positioned
      grind

/-- The check succeeds exactly on accepted signatures. -/
theorem checkSignature_eq_ok_iff : checkSignature signature = .ok () ↔ signature.Accepted := by
  unfold checkSignature
  rw [check_bind_eq_ok_iff, check_bind_eq_ok_iff, checkName_eq_ok_iff,
    checkPositionals_eq_ok_iff, checkOptions_eq_ok_iff]
  constructor
  · rintro ⟨⟨bindable, unshadowed⟩, ⟨positionals, nodup⟩, options, optionNodup⟩
    refine ⟨bindable, unshadowed, ?_, ?_, fun p member => (positionals p member).2.2.2, nodup,
      optionNodup, ?_⟩
    · simp only [Signature.positionalNames, List.forall_mem_map]
      exact fun p member => (positionals p member).1
    · simp only [Signature.positionalNames, List.forall_mem_map]
      exact fun p member => (positionals p member).2.2.1
    · simp only [Signature.optionNames, List.forall_mem_map]
      exact fun o member => (options o member).2
  · rintro ⟨bindable, unshadowed, positionalBindable, unreserved, required, nodup, optionNodup,
      unpositioned⟩
    -- What `Accepted` says of lists of names the checks say of their members.
    simp only [Signature.positionalNames, Signature.optionNames, List.forall_mem_map] at *
    exact ⟨⟨bindable, unshadowed⟩,
      ⟨fun p member =>
        ⟨positionalBindable p member, List.not_mem_nil, unreserved p member, required p member⟩,
        nodup⟩,
      fun o member => ⟨List.not_mem_nil, unpositioned o member⟩, optionNodup⟩

end EntryPoint
