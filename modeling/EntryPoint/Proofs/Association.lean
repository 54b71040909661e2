/-
# Values by key

Setting the value of a key changes the value of that key alone, and no key comes
to stand twice.

## Main results

* `Association.lookup_insert`, `Association.lookup_filter` - the values after one was set, or
  some were removed.
* `Association.map_fst_insert`, `Association.nodup_insert` - the keys in order, each of which still
  occurs once.
* `Association.lookup_update`, `Association.filter_update` - the values after those of another list
  were set.
-/

import EntryPoint.Association
import Mathlib.Data.List.Nodup

namespace EntryPoint.Association

variable {α β : Type} [DecidableEq α] {pairs : List (α × β)} {key other : α} {value : β}

theorem lookup_insert [BEq α] [LawfulBEq α] : (insert pairs key value).lookup other =
    if other = key then some value else pairs.lookup other := by
  induction pairs with
  | nil =>
    rw [insert, List.lookup_cons]
    by_cases same : other = key
    · simp [same]
    · simp [same, beq_eq_false_iff_ne.mpr same]
  | cons first rest ih =>
    rw [insert]
    -- Where the key stands it is overwritten, and else the pair comes at the end.
    by_cases here : first.1 = key
    · rw [if_pos here, List.lookup_cons, List.lookup_cons, here]
      by_cases same : other = key
      · simp [same]
      · simp [same, beq_eq_false_iff_ne.mpr same]
    · rw [if_neg here, List.lookup_cons, List.lookup_cons, ih]
      by_cases same : other = first.1
      · simp [same, here]
      · rw [beq_eq_false_iff_ne.mpr same]

/-- Pairs that are kept by their keys keep their values. -/
theorem lookup_filter [BEq α] [LawfulBEq α] (keeps : α → Bool) :
    (pairs.filter (keeps ·.1)).lookup other = if keeps other then pairs.lookup other else none := by
  induction pairs with
  | nil => simp
  | cons first rest ih =>
    rw [List.filter_cons, List.lookup_cons]
    -- The first pair decides for its own key, whether it is kept or not, and for no other.
    by_cases same : other = first.1
    · subst same
      by_cases kept : keeps first.1
      · rw [if_pos kept, if_pos kept, List.lookup_cons_self, beq_self_eq_true]
      · rw [if_neg kept, ih, if_neg kept, if_neg kept]
    · rw [beq_eq_false_iff_ne.mpr same, ← ih]
      by_cases kept : keeps first.1
      · rw [if_pos kept, List.lookup_cons, beq_eq_false_iff_ne.mpr same]
      · rw [if_neg kept]

theorem lookup_filter_ne [BEq α] [LawfulBEq α] : (pairs.filter (·.1 ≠ key)).lookup other =
    if other = key then none else pairs.lookup other := by
  rw [lookup_filter fun candidate => candidate ≠ key]
  by_cases same : other = key <;> simp [same]

theorem mem_map_fst_insert_iff :
    other ∈ (insert pairs key value).map Prod.fst ↔ other = key ∨ other ∈ pairs.map Prod.fst := by
  induction pairs with
  | nil => simp [insert]
  | cons first rest ih =>
    rw [insert]
    by_cases here : first.1 = key
    · rw [if_pos here, List.map_cons, List.map_cons, here]
      simp
    · rw [if_neg here, List.map_cons, List.map_cons, List.mem_cons, List.mem_cons, ih]
      exact or_left_comm

/-- The keys keep their order, and a new key comes last. -/
theorem map_fst_insert (pairs : List (α × β)) (key : α) (value : β) :
    (insert pairs key value).map Prod.fst =
      if key ∈ pairs.map Prod.fst then pairs.map Prod.fst else pairs.map Prod.fst ++ [key] := by
  induction pairs with
  | nil => rfl
  | cons first rest ih =>
    rw [insert]
    by_cases here : first.1 = key
    · simp [here]
    · rw [if_neg here, List.map_cons, List.map_cons, ih]
      have apart : key ≠ first.1 := Ne.symm here
      simp only [List.mem_cons, apart, false_or]
      split <;> rfl

/-- A new key is set at the end. -/
theorem insert_of_notMem (fresh : key ∉ pairs.map Prod.fst) :
    insert pairs key value = pairs ++ [(key, value)] := by
  induction pairs with
  | nil => rfl
  | cons first rest ih =>
    rw [List.map_cons, List.mem_cons, not_or] at fresh
    rw [insert, if_neg (Ne.symm fresh.1), ih fresh.2, List.cons_append]

/-- What is kept by the keys after a value was set. -/
theorem filter_insert (keeps : α → Bool) : (insert pairs key value).filter (keeps ·.1) =
    if keeps key then insert (pairs.filter (keeps ·.1)) key value
    else pairs.filter (keeps ·.1) := by
  induction pairs with
  | nil => simp [insert, List.filter_cons]
  | cons first rest ih =>
    rw [insert, List.filter_cons]
    -- The pair that is overwritten is kept or dropped like the one that replaces it.
    by_cases here : first.1 = key
    · rw [if_pos here, List.filter_cons, here]
      by_cases kept : keeps key
      · rw [if_pos kept, if_pos kept, if_pos kept, insert, if_pos here]
      · rw [if_neg kept, if_neg kept, if_neg kept]
    · rw [if_neg here, List.filter_cons, ih]
      by_cases kept : keeps first.1
      · rw [if_pos kept, if_pos kept, insert, if_neg here]
        split <;> rfl
      · rw [if_neg kept, if_neg kept]

/-- Each key still occurs once. -/
theorem nodup_insert (nodup : (pairs.map Prod.fst).Nodup) :
    ((insert pairs key value).map Prod.fst).Nodup := by
  induction pairs with
  | nil => exact List.nodup_singleton key
  | cons first rest ih =>
    obtain ⟨fresh, nodup⟩ := List.nodup_cons.mp nodup
    rw [insert]
    -- Overwriting a pair leaves its key, and a key that is not there comes once.
    by_cases here : first.1 = key
    · rw [if_pos here, List.map_cons, List.nodup_cons]
      exact ⟨here ▸ fresh, nodup⟩
    · rw [if_neg here, List.map_cons, List.nodup_cons, mem_map_fst_insert_iff]
      exact ⟨fun found => found.elim here fresh, ih nodup⟩

/-- What is set is the new pair, or a pair that was there before. -/
theorem mem_insert {pair : α × β} (member : pair ∈ insert pairs key value) :
    pair = (key, value) ∨ pair ∈ pairs := by
  induction pairs with
  | nil => exact .inl (List.mem_singleton.mp member)
  | cons first rest ih =>
    rw [insert] at member
    by_cases here : first.1 = key
    · rw [if_pos here] at member
      exact (List.mem_cons.mp member).imp id (List.mem_cons_of_mem first)
    · rw [if_neg here] at member
      rcases List.mem_cons.mp member with rfl | further
      · exact .inr List.mem_cons_self
      · exact (ih further).imp id (List.mem_cons_of_mem first)

/-! ### Several keys -/

variable {further : List (α × β)}

omit [DecidableEq α] in
theorem lookup_eq_none_of_notMem [BEq α] [LawfulBEq α] (fresh : key ∉ pairs.map Prod.fst) :
    pairs.lookup key = none := by
  rw [List.lookup_eq_none_iff]
  exact fun pair member => bne_iff_ne.mpr fun same => fresh (same ▸ List.mem_map_of_mem member)

theorem mem_map_fst_update_iff : other ∈ (update pairs further).map Prod.fst ↔
    other ∈ pairs.map Prod.fst ∨ other ∈ further.map Prod.fst := by
  induction further generalizing pairs with
  | nil => simp [update]
  | cons first rest ih =>
    change other ∈ (update (insert pairs first.1 first.2) rest).map Prod.fst ↔ _
    rw [ih, mem_map_fst_insert_iff, List.map_cons, List.mem_cons, or_assoc, or_left_comm]

theorem nodup_update (nodup : (pairs.map Prod.fst).Nodup) :
    ((update pairs further).map Prod.fst).Nodup := by
  induction further generalizing pairs with
  | nil => exact nodup
  | cons first rest ih => exact ih (nodup_insert nodup)

/-- What is kept by the keys after the values of another list were set. -/
theorem filter_update (keeps : α → Bool) : (update pairs further).filter (keeps ·.1) =
    update (pairs.filter (keeps ·.1)) (further.filter (keeps ·.1)) := by
  induction further generalizing pairs with
  | nil => rfl
  | cons first rest ih =>
    change (update (insert pairs first.1 first.2) rest).filter (keeps ·.1) = _
    rw [ih, filter_insert, List.filter_cons]
    split <;> rfl

/-- Keys that are all new are set at the end. -/
theorem update_of_notMem (nodup : (further.map Prod.fst).Nodup)
    (fresh : ∀ key ∈ further.map Prod.fst, key ∉ pairs.map Prod.fst) :
    update pairs further = pairs ++ further := by
  induction further generalizing pairs with
  | nil => exact (List.append_nil pairs).symm
  | cons first rest ih =>
    obtain ⟨apart, nodup⟩ := List.nodup_cons.mp nodup
    change update (insert pairs first.1 first.2) rest = _
    -- A key that is new comes at the end, and then it is no key of those behind it.
    rw [insert_of_notMem (fresh first.1 List.mem_cons_self), ih nodup, List.append_assoc]
    · rfl
    · simp only [List.map_append, List.map_cons, List.map_nil, List.mem_append, List.mem_singleton]
      rintro key member (before | rfl)
      · exact fresh key (List.mem_cons_of_mem _ member) before
      · exact apart member

/-- The other list decides where it has a value. -/
theorem lookup_update [BEq α] [LawfulBEq α] (nodup : (further.map Prod.fst).Nodup) :
    (update pairs further).lookup other = (further.lookup other).or (pairs.lookup other) := by
  induction further generalizing pairs with
  | nil => rfl
  | cons first rest ih =>
    obtain ⟨fresh, nodup⟩ := List.nodup_cons.mp nodup
    change (update (insert pairs first.1 first.2) rest).lookup other = _
    rw [ih nodup, lookup_insert, List.lookup_cons]
    -- A key of what is set first is not set again behind it.
    by_cases same : other = first.1
    · subst same
      simp [lookup_eq_none_of_notMem fresh]
    · simp [same, beq_eq_false_iff_ne.mpr same]

end EntryPoint.Association
