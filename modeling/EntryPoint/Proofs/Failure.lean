/-
# The kinds of faults

What can stop an operation is known beforehand: failures of a few kinds, with the
exit codes of those kinds, and faults that are not foreseen. Steps in sequence are
stopped by what stops one of them.

## Main definitions

* `Fault.Among` - a fault is a failure of one of some kinds, or not foreseen.
* `StopsAmong` - whatever stops an operation is such a fault.
* `FailsAs` - an operation stops with a failure of a kind.
* `Foreseen` - an operation gives a value, or fails as a kind does.

## Main results

* `Fault.Among.exitCode_ne_zero` - no such failure has the exit code of success.
* `StopsAmong.bind`, `StopsAmong.mapM`, `StopsAmong.foldlM` - steps in sequence.
* `failsAs_check_bind_iff` - a check in front of a step.
-/

import EntryPoint.Failure
import EntryPoint.Proofs.Outcome

namespace EntryPoint

variable {α β : Type} {kinds more : List FailureKind} {fault : Fault} {kind : FailureKind}

/-! ### Faults -/

/-- A fault is a failure of one of some kinds, with the exit code of its kind, or not foreseen. -/
inductive Fault.Among (kinds : List FailureKind) : Fault → Prop
  | failure {kind : FailureKind} (member : kind ∈ kinds) (message : String) :
    Among kinds (.failure { kind, message })
  | unforeseen (kind : UnforeseenKind) : Among kinds (.unforeseen kind)

theorem Fault.Among.mono (among : fault.Among kinds) (sub : kinds ⊆ more) : fault.Among more := by
  cases among with
  | failure member message => exact .failure (sub member) message
  | unforeseen kind => exact .unforeseen kind

theorem FailureKind.exitCode_ne_zero (kind : FailureKind) : kind.exitCode ≠ 0 := by
  cases kind <;> decide

/-- No failure with the exit code of its kind ends like a success. -/
theorem Fault.Among.exitCode_ne_zero {failure : Failure}
    (among : Fault.Among kinds (.failure failure)) : failure.exitCode ≠ 0 := by
  cases among
  exact FailureKind.exitCode_ne_zero _

/-! ### Operations -/

/-- Whatever stops an operation is a failure of one of some kinds, or not foreseen. -/
def StopsAmong (kinds : List FailureKind) (result : Except Fault α) : Prop :=
  ∀ fault, result = .error fault → fault.Among kinds

namespace StopsAmong

theorem mono {result : Except Fault α} (stops : StopsAmong kinds result) (sub : kinds ⊆ more) :
    StopsAmong more result :=
  fun fault stopped => (stops fault stopped).mono sub

theorem ok (value : α) : StopsAmong kinds (.ok value) := by
  rintro fault ⟨⟩

theorem fail (member : kind ∈ kinds) (message : String) :
    StopsAmong kinds (EntryPoint.fail kind message : Except Fault α) := by
  rintro fault ⟨⟩
  exact .failure member message

theorem unforeseen (kind : UnforeseenKind) :
    StopsAmong kinds (failUnforeseen kind : Except Fault α) := by
  rintro fault ⟨⟩
  exact .unforeseen kind

/-- What fails in a file is not foreseen, so it is among all kinds. -/
theorem mapError_unforeseen (result : Except UnforeseenKind α) :
    StopsAmong kinds (result.mapError Fault.unforeseen) := by
  cases result with
  | error kind => exact .unforeseen kind
  | ok value => exact .ok value

/-- Steps in sequence stop among the kinds of each. -/
theorem bind {first : Except Fault α} {second : α → Except Fault β}
    (here : StopsAmong kinds first) (further : ∀ value, StopsAmong kinds (second value)) :
    StopsAmong kinds (first >>= second) := by
  cases first with
  | error fault =>
    rintro fault ⟨⟩
    exact here fault rfl
  | ok value => exact further value

theorem mapM {step : α → Except Fault β} {members : List α}
    (each : ∀ member, StopsAmong kinds (step member)) : StopsAmong kinds (members.mapM step) := by
  induction members with
  | nil => exact .ok []
  | cons first members ih =>
    rw [List.mapM_cons]
    exact .bind (each first) fun _ => .bind ih fun _ => .ok _

theorem forM {step : α → Except Fault Unit} {members : List α}
    (each : ∀ member, StopsAmong kinds (step member)) : StopsAmong kinds (members.forM step) := by
  induction members with
  | nil => exact .ok ()
  | cons first members ih => exact .bind (each first) fun _ => ih

/-- A step that is repeated with what the one before gave. -/
theorem foldlM {step : β → α → Except Fault β} {members : List α} {start : β}
    (each : ∀ value member, StopsAmong kinds (step value member)) :
    StopsAmong kinds (members.foldlM step start) := by
  induction members generalizing start with
  | nil => exact .ok start
  | cons first members ih =>
    rw [List.foldlM_cons]
    exact .bind (each start first) fun _ => ih

end StopsAmong

/-! ### Failures of one kind -/

/-- An operation stops with a failure of a kind. -/
def FailsAs (kind : FailureKind) (result : Except Fault α) : Prop :=
  ∃ message, result = fail kind message

variable {other : FailureKind}

/-- A value is no failure. -/
theorem not_failsAs_ok (value : α) : ¬FailsAs kind (.ok value) := by
  rintro ⟨message, ⟨⟩⟩

/-- A failure is of its own kind and no other. -/
theorem failsAs_fail_iff {message : String} :
    FailsAs kind (fail other message : Except Fault α) ↔ other = kind := by
  constructor
  · rintro ⟨_, same⟩
    cases same
    rfl
  · rintro rfl
    exact ⟨message, rfl⟩

theorem FailsAs.ne_ok {result : Except Fault α} (fails : FailsAs kind result) (value : α) :
    result ≠ .ok value := by
  rintro rfl
  exact not_failsAs_ok value fails

/-- So no outcome is a failure of two kinds. -/
theorem FailsAs.kind_eq {result : Except Fault α} (fails : FailsAs kind result)
    (fails' : FailsAs other result) : kind = other := by
  obtain ⟨message, rfl⟩ := fails
  exact failsAs_fail_iff.mp fails'

/-- A check fails in front of a step, or passes and the step fails. -/
theorem failsAs_check_bind_iff {check : Except Fault Unit} {step : Unit → Except Fault α} :
    FailsAs kind (check >>= step) ↔
      FailsAs kind check ∨ check = .ok () ∧ FailsAs kind (step ()) := by
  cases check with
  | error fault =>
    constructor
    · rintro ⟨message, same⟩
      cases same
      exact .inl ⟨message, rfl⟩
    · rintro (⟨message, same⟩ | ⟨⟨⟩, -⟩)
      cases same
      exact ⟨message, rfl⟩
  -- A check that passes gives nothing that the step could depend on.
  | ok value => exact ⟨fun fails => .inr ⟨rfl, fails⟩, fun fails =>
      fails.elim (fun fails => absurd fails (not_failsAs_ok ())) And.right⟩

/-! ### Foreseen outcomes -/

/-- The fault that stops an operation, if one does. -/
def fault? : Except Fault α → Option Fault
  | .error fault => some fault
  | .ok _ => none

theorem fault?_eq_some_iff {result : Except Fault α} :
    fault? result = some fault ↔ result = .error fault := by
  cases result with
  | error other => rw [fault?, Option.some.injEq, Except.error.injEq]
  | ok value => exact iff_of_false (by rintro ⟨⟩) (by rintro ⟨⟩)

/-- What is not foreseen is told apart by its kind. -/
theorem failUnforeseen_inj {unforeseen unforeseen' : UnforeseenKind} :
    (failUnforeseen unforeseen : Except Fault α) = failUnforeseen unforeseen' ↔
      unforeseen = unforeseen' := by
  unfold failUnforeseen
  rw [Except.error.injEq, Fault.unforeseen.injEq]

/-- An operation gives a value, or fails as a kind does. -/
def Foreseen (kind : FailureKind) (result : Except Fault α) : Prop :=
  (∃ value, result = .ok value) ∨ FailsAs kind result

/-- What stops an operation without an unforeseen fault is a failure of one of its kinds. -/
theorem StopsAmong.ok_or_failsAs {kinds : List FailureKind} {result : Except Fault α}
    (stops : StopsAmong kinds result)
    (foreseen : ∀ unforeseen, result ≠ failUnforeseen unforeseen) :
    (∃ value, result = .ok value) ∨ ∃ kind ∈ kinds, FailsAs kind result := by
  cases result with
  | ok value => exact .inl ⟨value, rfl⟩
  | error fault =>
    cases stops fault rfl with
    | failure member message => exact .inr ⟨_, member, message, rfl⟩
    | unforeseen unforeseen => exact absurd rfl (foreseen unforeseen)

/-- Where no other failures are possible, an outcome is foreseen unless the fault is not. -/
theorem StopsAmong.foreseen_iff {result : Except Fault α} (stops : StopsAmong [kind] result) :
    Foreseen kind result ↔ ∀ unforeseen, result ≠ failUnforeseen unforeseen := by
  constructor
  · rintro (⟨value, rfl⟩ | ⟨message, rfl⟩) unforeseen ⟨⟩
  · intro foreseen
    rcases stops.ok_or_failsAs foreseen with done | ⟨_, member, failed⟩
    · exact .inl done
    · obtain rfl := List.mem_singleton.mp member
      exact .inr failed

end EntryPoint
