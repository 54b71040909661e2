/-
# The pairs of a mapping

A text is the same key as itself and as nothing else. So a value that is set under a
text changes the value of that text alone, and values that are changed where they
stand are found changed under the same keys.

## Main results

* `Value.sameKey_text_iff` - what is the same key as a text.
* `Value.lookup?_insertPair` - the values after one was set.
* `Value.lookup?_map` - the values after each was changed where it stands.
-/

import EntryPoint.Document.Value
import Mathlib.Data.List.Basic
import Mathlib.Tactic.SplitIfs

namespace EntryPoint.Document.Value

variable {pairs : List (Value × Value)} {pair : Value × Value} {key other : String} {value : Value}

/-- No other value is the same key as a text. -/
theorem sameKey_text_iff : value.sameKey (.text key) ↔ value = .text key := by
  cases value with
  | text other => simp [sameKey, integral?]
  | real number =>
    have apart : (Value.real number).sameKey (.text key) = false := by
      unfold sameKey
      cases (Value.real number).integral? <;> rfl
    simp [apart]
  | _ => simp [sameKey, integral?]

/-! ### Values that are set -/

theorem lookup?_cons : lookup? key (pair :: pairs) =
    if pair.1.sameKey (.text key) then some pair.2 else lookup? key pairs := by
  unfold lookup? lookupPair?
  rw [List.find?_cons]
  split_ifs with here
  · rw [here]
    rfl
  · rw [Bool.eq_false_iff.mpr here]

/-- A value that is set changes the value of its own key alone. -/
theorem lookup?_insertPair : lookup? other (insertPair pairs (.text key) value) =
    if other = key then some value else lookup? other pairs := by
  have text : (Value.text key).sameKey (.text other) ↔ other = key :=
    sameKey_text_iff.trans ⟨fun same => (Value.text.inj same).symm, fun same => same ▸ rfl⟩
  induction pairs with
  | nil =>
    rw [insertPair, lookup?_cons]
    exact if_congr text rfl rfl
  | cons first rest ih =>
    rw [insertPair]
    split_ifs with here same same
    · rw [lookup?_cons, if_pos (same ▸ here)]
    · -- The key that is set stands here, so that another one does not.
      have apart : ¬first.1.sameKey (.text other) := by
        rw [sameKey_text_iff.mp here]
        exact mt text.mp same
      rw [lookup?_cons, lookup?_cons, if_neg apart, if_neg apart]
    · rw [lookup?_cons, if_neg (same ▸ here), ih, if_pos same]
    · rw [lookup?_cons, lookup?_cons, ih, if_neg same]

theorem lookupD_insertPair : lookupD other (insertPair pairs (.text key) value) =
    if other = key then value else lookupD other pairs := by
  unfold lookupD
  rw [lookup?_insertPair, apply_ite (Option.getD · Value.null)]
  rfl

/-! ### Values that are changed where they stand -/

/-- Values that are changed where they stand are found changed. -/
theorem lookup?_map {change : Value → Value → Value} :
    lookup? key (pairs.map fun pair => (pair.1, change pair.1 pair.2)) =
      (lookup? key pairs).map (change (.text key)) := by
  induction pairs with
  | nil => rfl
  | cons first rest ih =>
    rw [List.map_cons, lookup?_cons, lookup?_cons, ih]
    split_ifs with here
    · rw [sameKey_text_iff.mp here]
      rfl
    · rfl

end EntryPoint.Document.Value
