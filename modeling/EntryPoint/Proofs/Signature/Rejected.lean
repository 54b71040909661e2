/-
# Rejected signatures

The check of a signature stops at the first flaw that it meets. A positional that may
be left out is not supported, any other flaw violates what signatures must satisfy;
where a signature has flaws of both sorts, the one met first decides how it is
rejected.

## Main definitions

* `Signature.NameFits`, `Signature.Positioned` - what names must satisfy.
* `Signature.Renderable` - what a signature must satisfy, in no order.
* `Signature.OptionalFirst` - the first flaw is a positional that may be left out.

## Main results

* `checkSignature_verdict` - when a signature is accepted, and how it is rejected.
-/

import EntryPoint.Proofs.Failure
import EntryPoint.Proofs.Signature.Accepted
import Mathlib.Data.List.Nodup

namespace EntryPoint

open Text

namespace Signature

/-- The function has a name that can be bound and that the callbacks do not bind. -/
structure NameFits (signature : Signature) : Prop where
  bindable : isBindable signature.name
  unbound : signature.name ∉ ["builder", "handler", "argv"]
  unoptional : signature.options ≠ [] → signature.name ≠ "options"

/-- A positional may have a name that can be bound and that the handler does not use. -/
structure Positions (signature : Signature) (name : String) : Prop where
  bindable : isBindable name
  unused : name ∉ ["_", "argv", signature.name]
  unoptional : signature.options ≠ [] → name ≠ "options"

/-- Positionals have names that they may have, each its own. -/
structure Positioned (signature : Signature) (positionals : List Positional) : Prop where
  named : ∀ positional ∈ positionals, signature.Positions positional.name
  distinct : (positionals.map (·.name)).Nodup

/-- What a signature must satisfy. -/
structure Renderable (signature : Signature) : Prop where
  name : signature.NameFits
  positioned : signature.Positioned signature.positionals
  required : ∀ positional ∈ signature.positionals, positional.required
  options : (signature.options.map (·.name)).Nodup
  apart : ∀ option ∈ signature.options, ∀ positional ∈ signature.positionals,
    option.name ≠ positional.name

/-- The name of the function fits, and the first positional with a flaw has a name that fits, but
may be left out. -/
structure OptionalFirst (signature : Signature) : Prop where
  name : signature.NameFits
  first : ∃ before positional after, signature.positionals = before ++ positional :: after ∧
    signature.Positioned (before ++ [positional]) ∧
    (∀ earlier ∈ before, earlier.required) ∧ positional.required = false

end Signature

variable {signature : Signature} {positional : Positional} {positionals : List Positional}
  {seen names : List String} {options : List Flag} {kind : FailureKind} {name : String}

/-! ### Names -/

theorem notMem_shadowingNames_iff : name ∉ shadowingNames signature ↔
    name ∉ ["builder", "handler", "argv"] ∧ (signature.options ≠ [] → name ≠ "options") := by
  unfold shadowingNames builderName handlerName argvName optionsName
  cases signature.options <;> simp [and_assoc]

theorem notMem_positionalReserved_iff : name ∉ positionalReserved signature ↔
    name ∉ ["_", "argv", signature.name] ∧ (signature.options ≠ [] → name ≠ "options") := by
  unfold positionalReserved bucketKey argvName optionsName
  cases signature.options <;> simp [and_assoc]

/-- A name passes its check exactly if it can be bound and is reserved for nothing else. -/
theorem checkName_iff : checkName signature = .ok () ↔ signature.NameFits := by
  rw [checkName_eq_ok_iff, notMem_shadowingNames_iff]
  exact ⟨fun ⟨bindable, unbound, unoptional⟩ => ⟨bindable, unbound, unoptional⟩,
    fun ⟨bindable, unbound, unoptional⟩ => ⟨bindable, unbound, unoptional⟩⟩

/-- A positional can be bound and takes no name that the handler needs. -/
theorem positions_iff : signature.Positions name ↔
    isBindable name ∧ name ∉ positionalReserved signature := by
  rw [notMem_positionalReserved_iff]
  exact ⟨fun ⟨bindable, unused, unoptional⟩ => ⟨bindable, unused, unoptional⟩,
    fun ⟨bindable, unused, unoptional⟩ => ⟨bindable, unused, unoptional⟩⟩

/-- Positionals pass exactly if each is apart from those before it and none is optional. -/
theorem checkPositionals_iff : checkPositionals signature [] positionals = .ok () ↔
    signature.Positioned positionals ∧ ∀ positional ∈ positionals, positional.required := by
  rw [checkPositionals_eq_ok_iff]
  constructor
  · rintro ⟨each, distinct⟩
    refine ⟨⟨fun positional member => ?_, distinct⟩, fun positional member => ?_⟩
    · obtain ⟨bindable, -, unreserved, -⟩ := each positional member
      exact positions_iff.mpr ⟨bindable, unreserved⟩
    · exact (each positional member).2.2.2
  · rintro ⟨⟨named, distinct⟩, required⟩
    refine ⟨fun positional member => ?_, distinct⟩
    obtain ⟨bindable, unreserved⟩ := positions_iff.mp (named positional member)
    exact ⟨bindable, List.not_mem_nil, unreserved, required positional member⟩

/-- The check succeeds exactly on signatures that satisfy what they must. -/
theorem accepted_iff_renderable : signature.Accepted ↔ signature.Renderable := by
  rw [← checkSignature_eq_ok_iff, checkSignature, check_bind_eq_ok_iff, check_bind_eq_ok_iff,
    checkName_iff, checkPositionals_iff, checkOptions_eq_ok_iff]
  constructor
  · rintro ⟨name, ⟨positioned, required⟩, apart, options⟩
    -- The options are checked against the names of the positionals, not against the positionals.
    refine ⟨name, positioned, required, options, fun option member positional listed same => ?_⟩
    exact (apart option member).2 (same ▸ List.mem_map_of_mem listed)
  · rintro ⟨name, positioned, required, options, apart⟩
    refine ⟨name, ⟨positioned, required⟩, fun option member => ⟨List.not_mem_nil, ?_⟩, options⟩
    intro listed
    obtain ⟨positional, listed, same⟩ := List.mem_map.mp listed
    exact apart option member positional listed same.symm

/-! ### The first flaw -/

/-- An optional positional is unsupported, but only if nothing else is wrong with it. -/
theorem unsupported_positional_iff :
    FailsAs .unsupported (checkPositional signature seen positional) ↔
    isBindable positional.name ∧ positional.name ∉ seen ∧
      positional.name ∉ positionalReserved signature ∧ positional.required = false := by
  unfold checkPositional
  dsimp only
  split_ifs with unbindable repeated reserved optional
  · simp_all [failsAs_fail_iff]
  · simp_all [failsAs_fail_iff]
  · simp_all [failsAs_fail_iff]
  · simp_all [failsAs_fail_iff]
  · simp_all [not_failsAs_ok]

/-- Positionals fail as one of them does, behind others that pass. -/
theorem failsAs_checkPositionals_iff :
    FailsAs kind (checkPositionals signature seen positionals) ↔
      ∃ before positional after, positionals = before ++ positional :: after ∧
        checkPositionals signature seen before = .ok () ∧
        FailsAs kind
          (checkPositional signature ((before.map (·.name)).reverse ++ seen) positional) := by
  -- The flaw is at the first positional, or behind it once that one has passed.
  induction positionals generalizing seen with
  | nil =>
    refine iff_of_false (not_failsAs_ok ()) ?_
    rintro ⟨before, positional, after, none, -⟩
    simp at none
  | cons first rest ih =>
    rw [checkPositionals, failsAs_check_bind_iff, ih]
    constructor
    · rintro (fails | ⟨passes, before, positional, after, rfl, passed, fails⟩)
      · exact ⟨[], first, rest, rfl, rfl, fails⟩
      · refine ⟨first :: before, positional, after, rfl, ?_, ?_⟩
        · rw [checkPositionals, check_bind_eq_ok_iff]
          exact ⟨passes, passed⟩
        · simpa using fails
    · rintro ⟨before, positional, after, split, passed, fails⟩
      cases before with
      | nil =>
        cases split
        exact .inl fails
      | cons _ before =>
        cases split
        rw [checkPositionals, check_bind_eq_ok_iff] at passed
        exact .inr ⟨passed.1, before, positional, after, rfl, passed.2, by simpa using fails⟩

/-- A positional is not supported if it may be left out, all before it pass, and so does its own
name. -/
theorem unsupported_positionals_iff :
    FailsAs .unsupported (checkPositionals signature [] positionals) ↔
      ∃ before positional after, positionals = before ++ positional :: after ∧
        signature.Positioned (before ++ [positional]) ∧
        (∀ earlier ∈ before, earlier.required) ∧ positional.required = false := by
  rw [failsAs_checkPositionals_iff]
  refine exists_congr fun before => exists_congr fun positional => exists_congr fun after =>
    and_congr_right fun _ => ?_
  -- The names before are listed in reverse where the check has come to.
  rw [checkPositionals_iff, unsupported_positional_iff, List.append_nil, List.mem_reverse]
  constructor
  · rintro ⟨⟨⟨named, distinct⟩, required⟩, bindable, fresh, unreserved, optional⟩
    refine ⟨⟨?_, ?_⟩, required, optional⟩
    · rw [List.forall_mem_append, List.forall_mem_singleton]
      exact ⟨named, positions_iff.mpr ⟨bindable, unreserved⟩⟩
    · rw [List.map_append, List.map_singleton, ← List.concat_eq_append, List.nodup_concat]
      exact ⟨fresh, distinct⟩
  · rintro ⟨⟨named, distinct⟩, required, optional⟩
    rw [List.forall_mem_append, List.forall_mem_singleton] at named
    rw [List.map_append, List.map_singleton, ← List.concat_eq_append, List.nodup_concat] at distinct
    obtain ⟨bindable, unreserved⟩ := positions_iff.mp named.2
    exact ⟨⟨⟨named.1, distinct.2⟩, required⟩, bindable, distinct.1, unreserved, optional⟩

/-! ### Verdicts -/

/-- A check passes, or fails as one of some kinds. -/
def Decides (kinds : List FailureKind) (check : Except Fault Unit) : Prop :=
  check = .ok () ∨ ∃ kind ∈ kinds, FailsAs kind check

namespace Decides

variable {kinds more : List FailureKind} {check : Except Fault Unit}
  {step : Unit → Except Fault Unit}

theorem ok : Decides kinds (.ok ()) :=
  .inl rfl

theorem fail (member : kind ∈ kinds) (message : String) :
    Decides kinds (EntryPoint.fail kind message) :=
  .inr ⟨kind, member, message, rfl⟩

theorem mono (decides : Decides kinds check) (sub : kinds ⊆ more) : Decides more check :=
  decides.imp_right fun ⟨kind, member, fails⟩ => ⟨kind, sub member, fails⟩

/-- Checks in sequence decide among the kinds of both. -/
theorem bind (decides : Decides kinds check) (further : Decides kinds (step ())) :
    Decides kinds (check >>= step) := by
  rcases decides with passes | ⟨kind, member, fails⟩
  · rw [passes]
    exact further
  · exact .inr ⟨kind, member, failsAs_check_bind_iff.mpr (.inl fails)⟩

/-- A check that fails as one kind alone does not fail as another. -/
theorem not_failsAs {other : FailureKind} (decides : Decides [kind] check) (apart : kind ≠ other) :
    ¬FailsAs other check := by
  intro failed
  rcases decides with passes | ⟨_, member, fails⟩
  · exact failed.ne_ok () passes
  · obtain rfl := List.mem_singleton.mp member
    exact apart (fails.kind_eq failed)

/-- A check that passes or fails does not end unforeseen. -/
theorem ne_failUnforeseen (decides : Decides kinds check) (unforeseen : UnforeseenKind) :
    check ≠ failUnforeseen unforeseen := by
  intro escaped
  rcases decides with passes | ⟨kind, -, message, fails⟩
  · cases escaped.symm.trans passes
  · cases escaped.symm.trans fails

end Decides

theorem decides_checkName : Decides [.invariant] (checkName signature) := by
  unfold checkName
  split_ifs
  · exact .fail (.head _) _
  · exact .fail (.head _) _
  · exact .ok

/-- The check of one positional passes or fails in one of two kinds. -/
theorem decides_checkPositional :
    Decides [.invariant, .unsupported] (checkPositional signature seen positional) := by
  unfold checkPositional
  dsimp only
  split_ifs
  · exact .fail (.head _) _
  · exact .fail (.head _) _
  · exact .fail (.head _) _
  · exact .fail (.tail _ (.head _)) _
  · exact .ok

theorem decides_checkPositionals :
    Decides [.invariant, .unsupported] (checkPositionals signature seen positionals) := by
  induction positionals generalizing seen with
  | nil => exact .ok
  | cons first rest ih => exact .bind decides_checkPositional ih

theorem decides_checkOptions : Decides [.invariant] (checkOptions names seen options) := by
  induction options generalizing seen with
  | nil => exact .ok
  | cons first rest ih =>
    rw [checkOptions]
    split_ifs
    · exact .fail (.head _) _
    · exact .fail (.head _) _
    · exact ih

/-- So does the check of a whole signature. -/
theorem decides_checkSignature : Decides [.invariant, .unsupported] (checkSignature signature) :=
  .bind (decides_checkName.mono (by simp)) <|
    .bind decides_checkPositionals (decides_checkOptions.mono (by simp))

/-- Only a positional makes a signature unsupported. -/
theorem unsupported_signature_iff :
    FailsAs .unsupported (checkSignature signature) ↔ signature.OptionalFirst := by
  have name : ¬FailsAs .unsupported (checkName signature) :=
    decides_checkName.not_failsAs (by decide)
  have options : ¬FailsAs .unsupported
      (checkOptions (signature.positionals.map (·.name)) [] signature.options) :=
    decides_checkOptions.not_failsAs (by decide)
  simp only [checkSignature, failsAs_check_bind_iff, name, options, false_or, and_false, or_false,
    checkName_iff, unsupported_positionals_iff]
  exact ⟨fun ⟨name, first⟩ => ⟨name, first⟩, fun ⟨name, first⟩ => ⟨name, first⟩⟩

/-- A signature is accepted exactly if it satisfies what it must. It is rejected as unsupported
exactly if the name of the function fits and the first positional with a flaw has no other than that
it may be left out, and as a violation in every other case. -/
theorem checkSignature_verdict (signature : Signature) :
    (checkSignature signature = .ok () ↔ signature.Renderable) ∧
    (FailsAs .unsupported (checkSignature signature) ↔ signature.OptionalFirst) ∧
    (FailsAs .invariant (checkSignature signature) ↔
      ¬signature.Renderable ∧ ¬signature.OptionalFirst) := by
  have accepted : checkSignature signature = .ok () ↔ signature.Renderable :=
    checkSignature_eq_ok_iff.trans accepted_iff_renderable
  refine ⟨accepted, unsupported_signature_iff, ?_⟩
  -- There is no third way: a signature that neither passes nor is unsupported is a violation.
  rw [← accepted, ← unsupported_signature_iff]
  constructor
  · intro fails
    refine ⟨fails.ne_ok (), fun fails' => ?_⟩
    cases fails.kind_eq fails'
  · rintro ⟨rejected, supported⟩
    rcases decides_checkSignature with passes | ⟨kind, member, fails⟩
    · exact absurd passes rejected
    · simp only [List.mem_cons, List.not_mem_nil, or_false] at member
      rcases member with rfl | rfl
      · exact fails
      · exact absurd fails supported

end EntryPoint
