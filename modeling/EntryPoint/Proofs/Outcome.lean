/-
# Outcomes of steps in sequence

A sequence of steps succeeds exactly when each step does, with the value that the
step before it gave.

## Main definitions

* `SucceedsIff` - a step succeeds under a condition, and only then.
* `Upholds` - what holds of the values and of the faults of a step.

## Main results

* `bind_eq_ok_iff`, `mapM_eq_ok_iff` - steps in sequence, and on all members of a list.
* `bind_eq_error_iff`, `mapM_eq_error_iff` - what stops steps in sequence, and on all members.
* `exists_mapM_eq_error_iff` - whether a step on all members of a list is stopped.
* `SucceedsIff.bind` - steps in sequence succeed under the conditions of each.
* `Upholds.bind` - steps in sequence uphold what each does.
-/

import Mathlib.Data.List.Forall2

namespace EntryPoint

variable {ε α β : Type}

/-- Two steps succeed exactly when the first does and the second does with what the first gave. -/
theorem bind_eq_ok_iff {first : Except ε α} {second : α → Except ε β} {result : β} :
    first >>= second = .ok result ↔ ∃ value, first = .ok value ∧ second value = .ok result := by
  constructor
  · intro succeeds
    cases first with
    | error fault => cases succeeds
    | ok value => exact ⟨value, rfl, succeeds⟩
  · rintro ⟨value, rfl, succeeds⟩
    exact succeeds

/-- Two steps are stopped by what stops the first, or the second with what the first gave. -/
theorem bind_eq_error_iff {first : Except ε α} {second : α → Except ε β} {fault : ε} :
    first >>= second = .error fault ↔
      first = .error fault ∨ ∃ value, first = .ok value ∧ second value = .error fault := by
  cases first with
  | error other =>
    have stops : .error other >>= second = .error other := rfl
    rw [stops, Except.error.injEq, Except.error.injEq, iff_self_or]
    rintro ⟨_, ⟨⟩, -⟩
  | ok value =>
    constructor
    · intro stopped
      exact .inr ⟨value, rfl, stopped⟩
    · rintro (⟨⟨⟩⟩ | ⟨_, ⟨⟩, stopped⟩)
      exact stopped

theorem map_eq_error_iff {first : Except ε α} {make : α → β} {fault : ε} :
    make <$> first = .error fault ↔ first = .error fault := by
  cases first with
  | error other =>
    change Except.error other = Except.error fault ↔ Except.error other = Except.error fault
    rw [Except.error.injEq, Except.error.injEq]
  | ok value => exact iff_of_false (by rintro ⟨⟩) (by rintro ⟨⟩)

/-- What is only made of a result cannot be stopped, so that the result was. -/
theorem bind_ok_eq_error_iff {first : Except ε α} {make : α → β} {fault : ε} :
    (first >>= fun value => .ok (make value)) = .error fault ↔ first = .error fault := by
  rw [bind_eq_error_iff, or_iff_left]
  rintro ⟨_, -, ⟨⟩⟩

theorem toOption_eq_some_iff {result : Except ε α} {value : α} :
    result.toOption = some value ↔ result = .ok value := by
  cases result with
  | error fault => exact iff_of_false (fun same => by cases same) (fun same => by cases same)
  | ok other =>
    exact ⟨fun same => congrArg _ (Option.some.inj same), fun same =>
      congrArg _ (Except.ok.inj same)⟩

/-- A check lets the step behind it decide exactly when it succeeds itself. -/
theorem check_bind_eq_ok_iff {check : Except ε Unit} {step : Unit → Except ε β} {result : β} :
    check >>= step = .ok result ↔ check = .ok () ∧ step () = .ok result := by
  rw [bind_eq_ok_iff]
  exact ⟨fun ⟨(), passes, succeeds⟩ => ⟨passes, succeeds⟩,
    fun ⟨passes, succeeds⟩ => ⟨(), passes, succeeds⟩⟩

/-- Checks of all members of a list succeed exactly when the check of each member does. -/
theorem forM_eq_ok_iff {check : α → Except ε Unit} {members : List α} :
    members.forM check = .ok () ↔ ∀ member ∈ members, check member = .ok () := by
  induction members with
  | nil => simp [pure, Except.pure]
  | cons first rest ih =>
    change (check first >>= fun _ => rest.forM check) = .ok () ↔ _
    rw [check_bind_eq_ok_iff, ih, List.forall_mem_cons]

/-- A step on all members of a list succeeds exactly with the results of the members in order. -/
theorem mapM_eq_ok_iff {step : α → Except ε β} {members : List α} {results : List β} :
    members.mapM step = .ok results ↔ members.map step = results.map .ok := by
  induction members generalizing results with
  | nil =>
    rw [List.mapM_nil, List.map_nil, List.nil_eq, List.map_eq_nil_iff]
    exact ⟨fun same => (Except.ok.inj same).symm, fun none => none ▸ rfl⟩
  | cons first rest ih =>
    -- Both sides are taken apart at the first member, and what is left is the rest on both.
    rw [List.mapM_cons, bind_eq_ok_iff, List.map_cons, eq_comm, List.map_eq_cons_iff]
    constructor
    · rintro ⟨result, here, further⟩
      obtain ⟨others, behind, same⟩ := bind_eq_ok_iff.mp further
      exact ⟨result, others, (Except.ok.inj same).symm, here.symm, (ih.mp behind).symm⟩
    · rintro ⟨result, others, rfl, here, behind⟩
      exact ⟨result, here.symm, bind_eq_ok_iff.mpr ⟨others, ih.mpr behind.symm, rfl⟩⟩

theorem mapM_eq_ok_iff_forall₂ {step : α → Except ε β} {members : List α} {results : List β} :
    members.mapM step = .ok results ↔
      List.Forall₂ (fun member result => step member = .ok result) members results := by
  rw [mapM_eq_ok_iff, ← List.forall₂_eq_eq_eq, List.forall₂_map_left_iff,
    List.forall₂_map_right_iff]

/-- A step on all members of a list is stopped by the first member on which it is. -/
theorem mapM_eq_error_iff {step : α → Except ε β} {members : List α} {fault : ε} :
    members.mapM step = .error fault ↔ ∃ before member after,
      members = before ++ member :: after ∧
        (∀ earlier ∈ before, ∃ value, step earlier = .ok value) ∧ step member = .error fault := by
  induction members with
  | nil =>
    refine iff_of_false (by rintro ⟨⟩) ?_
    rintro ⟨before, member, after, same, -⟩
    exact List.append_ne_nil_of_right_ne_nil before (List.cons_ne_nil member after) same.symm
  | cons first rest ih =>
    rw [List.mapM_cons, bind_eq_error_iff]
    constructor
    · rintro (here | ⟨value, passes, further⟩)
      · exact ⟨[], first, rest, rfl, List.forall_mem_nil _, here⟩
      · obtain ⟨before, member, after, rfl, earlier, stops⟩ :=
          ih.mp (bind_ok_eq_error_iff.mp further)
        exact ⟨first :: before, member, after, rfl,
          List.forall_mem_cons.mpr ⟨⟨value, passes⟩, earlier⟩, stops⟩
    · rintro ⟨before, member, after, same, earlier, stops⟩
      cases before with
      | nil =>
        obtain ⟨rfl, rfl⟩ := List.cons.inj same
        exact .inl stops
      | cons other before =>
        obtain ⟨rfl, rfl⟩ := List.cons.inj same
        obtain ⟨⟨value, passes⟩, earlier⟩ := List.forall_mem_cons.mp earlier
        exact .inr ⟨value, passes, bind_eq_error_iff.mpr
          (.inl (ih.mpr ⟨before, member, after, rfl, earlier, stops⟩))⟩

/-- A fold is stopped by the first member on which its step is. -/
theorem foldlM_eq_error_iff {step : β → α → Except ε β} {members : List α} {start : β} {fault : ε} :
    members.foldlM step start = .error fault ↔ ∃ before member after value,
      members = before ++ member :: after ∧ before.foldlM step start = .ok value ∧
        step value member = .error fault := by
  induction members generalizing start with
  | nil =>
    refine iff_of_false (by rintro ⟨⟩) ?_
    rintro ⟨before, member, after, _, same, -⟩
    exact List.append_ne_nil_of_right_ne_nil before (List.cons_ne_nil member after) same.symm
  | cons first rest ih =>
    rw [List.foldlM_cons, bind_eq_error_iff]
    constructor
    · rintro (here | ⟨next, passes, further⟩)
      · exact ⟨[], first, rest, start, rfl, rfl, here⟩
      · obtain ⟨before, member, after, value, rfl, earlier, stops⟩ := ih.mp further
        refine ⟨first :: before, member, after, value, rfl, ?_, stops⟩
        rw [List.foldlM_cons, passes]
        exact earlier
    · rintro ⟨before, member, after, value, same, earlier, stops⟩
      cases before with
      | nil =>
        obtain ⟨rfl, rfl⟩ := List.cons.inj same
        obtain rfl := Except.ok.inj earlier
        exact .inl stops
      | cons other before =>
        obtain ⟨rfl, rfl⟩ := List.cons.inj same
        rw [List.foldlM_cons, bind_eq_ok_iff] at earlier
        obtain ⟨next, passes, earlier⟩ := earlier
        exact .inr ⟨next, passes, ih.mpr ⟨before, member, after, value, rfl, earlier, stops⟩⟩

/-- A step on all members of a list is stopped exactly if it is stopped on a member. -/
theorem exists_mapM_eq_error_iff {step : α → Except ε β} {members : List α} :
    (∃ fault, members.mapM step = .error fault) ↔
      ∃ member ∈ members, ∃ fault, step member = .error fault := by
  induction members with
  | nil =>
    refine iff_of_false ?_ ?_
    · rintro ⟨fault, ⟨⟩⟩
    · rintro ⟨member, ⟨⟩, -⟩
  | cons first rest ih =>
    rw [List.mapM_cons, List.exists_mem_cons_iff, ← ih]
    cases step first with
    | error fault => exact iff_of_true ⟨fault, rfl⟩ (.inl ⟨fault, rfl⟩)
    | ok value =>
      cases rest.mapM step with
      | error fault => exact iff_of_true ⟨fault, rfl⟩ (.inr ⟨fault, rfl⟩)
      | ok values =>
        refine iff_of_false ?_ ?_
        · rintro ⟨fault, ⟨⟩⟩
        · rintro (⟨fault, ⟨⟩⟩ | ⟨fault, ⟨⟩⟩)

/-- A step that gives fixed results, where it succeeds, gives them to all members. -/
theorem mapM_eq_ok_iff_of_forall {step : α → Except ε β} {passes : α → Prop} {result : α → β}
    {members : List α} {results : List β}
    (each : ∀ member ∈ members, ∀ value,
      step member = .ok value ↔ passes member ∧ value = result member) :
    members.mapM step = .ok results ↔
      (∀ member ∈ members, passes member) ∧ results = members.map result := by
  induction members generalizing results with
  | nil => simp [pure, Except.pure, eq_comm]
  | cons first rest ih =>
    obtain ⟨here, further⟩ := List.forall_mem_cons.mp each
    rw [List.mapM_cons, bind_eq_ok_iff, List.forall_mem_cons, List.map_cons]
    simp only [here, bind_eq_ok_iff, ih further]
    constructor
    · rintro ⟨_, ⟨passes, rfl⟩, _, ⟨others, rfl⟩, same⟩
      exact ⟨⟨passes, others⟩, (Except.ok.inj same).symm⟩
    · rintro ⟨⟨passes, others⟩, rfl⟩
      exact ⟨_, ⟨passes, rfl⟩, _, ⟨others, rfl⟩, rfl⟩

/-- The results of a step on all members are what the step gives on some member. -/
theorem mem_of_mapM_eq_ok {step : α → Except ε β} {members : List α} {results : List β}
    (succeeds : members.mapM step = .ok results) {result : β} :
    result ∈ results ↔ ∃ member ∈ members, step member = .ok result := by
  have same := mapM_eq_ok_iff.mp succeeds
  rw [← List.mem_map, same, List.mem_map]
  exact ⟨fun member => ⟨result, member, rfl⟩, fun ⟨_, member, eq⟩ => Except.ok.inj eq ▸ member⟩

/-- Where a step succeeds on all members, it succeeds on each. -/
theorem exists_of_mapM_eq_ok {step : α → Except ε β} {members : List α} {results : List β}
    (succeeds : members.mapM step = .ok results) {member : α} (mem : member ∈ members) :
    ∃ result, step member = .ok result := by
  have stepped := List.mem_map_of_mem (f := step) mem
  rw [mapM_eq_ok_iff.mp succeeds, List.mem_map] at stepped
  obtain ⟨result, -, same⟩ := stepped
  exact ⟨result, same.symm⟩

/-! ### Conditions of success -/

/-- A step succeeds under a condition, and only then. -/
def SucceedsIff (condition : Prop) (result : Except ε α) : Prop :=
  (∃ value, result = .ok value) ↔ condition

namespace SucceedsIff

variable {here behind : Prop}

theorem ok (value : α) (holds : here) : SucceedsIff here (.ok value : Except ε α) :=
  iff_of_true ⟨value, rfl⟩ holds

theorem error (fault : ε) (fails : ¬here) : SucceedsIff here (.error fault : Except ε α) :=
  iff_of_false (by rintro ⟨value, ⟨⟩⟩) fails

theorem bind {first : Except ε α} {second : α → Except ε β} (succeeds : SucceedsIff here first)
    (further : ∀ value, SucceedsIff behind (second value)) :
    SucceedsIff (here ∧ behind) (first >>= second) := by
  cases first with
  | error fault =>
    refine .error fault fun both => ?_
    obtain ⟨value, failed⟩ := succeeds.mpr both.1
    cases failed
  | ok value => exact (further value).trans (and_iff_right (succeeds.mp ⟨value, rfl⟩)).symm

theorem map {first : Except ε α} {make : α → β} (succeeds : SucceedsIff here first) :
    SucceedsIff here (first >>= fun value => pure (make value)) := by
  have steps := succeeds.bind fun value => SucceedsIff.ok (ε := ε) (make value) trivial
  rwa [and_true] at steps

end SucceedsIff

/-! ### What steps uphold -/

/-- A step gives only values that are fit, and stops only with faults that have their grounds. -/
def Upholds (fit : α → Prop) (grounds : ε → Prop) : Except ε α → Prop
  | .ok value => fit value
  | .error fault => grounds fault

namespace Upholds

variable {fit : α → Prop} {grounds : ε → Prop}

theorem bind {fit' : β → Prop} {first : Except ε α} {second : α → Except ε β}
    (here : Upholds fit grounds first)
    (further : ∀ value, fit value → Upholds fit' grounds (second value)) :
    Upholds fit' grounds (first >>= second) := by
  cases first with
  | error fault => exact here
  | ok value => exact further value here

theorem mono {fit' : α → Prop} {grounds' : ε → Prop} {result : Except ε α}
    (upholds : Upholds fit grounds result) (fits : ∀ value, fit value → fit' value)
    (grounded : ∀ fault, grounds fault → grounds' fault) : Upholds fit' grounds' result := by
  cases result with
  | error fault => exact grounded fault upholds
  | ok value => exact fits value upholds

theorem and {fit' : α → Prop} {result : Except ε α} (upholds : Upholds fit grounds result)
    (also : ∀ value, result = .ok value → fit' value) :
    Upholds (fun value => fit value ∧ fit' value) grounds result := by
  cases result with
  | error fault => exact upholds
  | ok value => exact ⟨upholds, also value rfl⟩

end Upholds

end EntryPoint
