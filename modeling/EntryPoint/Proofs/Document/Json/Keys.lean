/-
# Keys of JSON documents

The keys of a mapping in a JSON text are texts, and a key that comes again gives a
new value to the old one. So every mapping in a value that was read, however deep,
gives values to texts, each of which occurs once.

## Main definitions

* `Value.Keyed` - every mapping in a value has texts as keys, each of them once.

## Main results

* `readJson_keyed` - what is read from a text is such a value.
* `Value.Keyed.lookupD` - and so is each value in it.
-/

import EntryPoint.Proofs.Association
import EntryPoint.Proofs.Document.Json.RoundTrip
import EntryPoint.Proofs.Outcome

namespace EntryPoint.Document

/-- Every mapping in a value has texts as keys, each of them once. -/
inductive Value.Keyed : Value → Prop
  | mapping {entries : List (String × Value)} (nodup : (entries.map Prod.fst).Nodup)
    (each : ∀ entry ∈ entries, Keyed entry.2) : Keyed (.mapping (pairsOf entries))
  | list {elements : List Value} (each : ∀ element ∈ elements, Keyed element) :
    Keyed (.list elements)
  | null : Keyed .null
  | truth (value : Bool) : Keyed (.truth value)
  | integer (value : Int) : Keyed (.integer value)
  | real (value : Decimal.Binary64) : Keyed (.real value)
  | text (value : String) : Keyed (.text value)

/-- A mapping that is keyed gives values to texts. -/
theorem Value.Keyed.exists_entries {pairs : List (Value × Value)} (keyed : Keyed (.mapping pairs)) :
    ∃ entries, pairs = pairsOf entries ∧ (entries.map Prod.fst).Nodup ∧
      ∀ entry ∈ entries, entry.2.Keyed := by
  -- The mapping of a keyed value has the pairs of texts for its index, not any pairs.
  generalize same : Value.mapping pairs = value at keyed
  cases keyed with
  | mapping nodup each =>
    cases same
    exact ⟨_, rfl, nodup, each⟩
  | _ => cases same

/-- So is what it gives to a key. -/
theorem Value.Keyed.lookupD {pairs : List (Value × Value)} (keyed : Keyed (.mapping pairs))
    (key : String) : (Value.lookupD key pairs).Keyed := by
  obtain ⟨entries, rfl, -, each⟩ := keyed.exists_entries
  unfold Value.lookupD Value.lookup? Value.lookupPair?
  cases found : (pairsOf entries).find? (·.1.sameKey (.text key)) with
  | none => exact .null
  | some pair =>
    obtain ⟨entry, member, rfl⟩ := List.mem_map.mp (List.mem_of_find?_eq_some found)
    exact each entry member

/-- A value that is set under a text is set in the association of texts. -/
theorem insertPair_pairsOf (entries : List (String × Value)) (key : String) (value : Value) :
    insertPair (pairsOf entries) (.text key) value =
      pairsOf (Association.insert entries key value) := by
  induction entries with
  | nil => rfl
  | cons first entries ih =>
    obtain ⟨other, old⟩ := first
    change insertPair ((.text other, old) :: pairsOf entries) (.text key) value = _
    rw [insertPair, Association.insert, sameKey_text, ih]
    by_cases same : other = key
    · simp [same, pairsOf]
    · simp [same, pairsOf]

variable {fuel : Nat} {text rest : List Char} {value : Value} {elements : List Value}
  {entries : List (String × Value)}

theorem Value.Keyed.empty : Keyed (.mapping []) := by
  have nodup : (([] : List (String × Value)).map Prod.fst).Nodup := List.nodup_nil
  exact .mapping nodup (by simp)

/-! ### Scalars -/

theorem Value.Keyed.of_scanNumber (scanned : scanNumber text = .ok (value, rest)) :
    value.Keyed := by
  unfold scanNumber at scanned
  dsimp only at scanned
  split at scanned
  · cases scanned
  · split at scanned
    · split at scanned
      · cases scanned
      · cases scanned
        exact .integer _
    · cases scanned
      exact .real _

theorem Value.Keyed.of_scanScalar (scanned : scanScalar text = .ok (value, rest)) :
    value.Keyed := by
  have named : ∀ entry ∈ namedValues, entry.2.Keyed := by
    simp [namedValues, null, truth, real]
  unfold scanScalar at scanned
  split at scanned
  · rename_i found
    cases scanned
    exact named _ (List.mem_of_find?_eq_some found)
  · exact of_scanNumber scanned

/-! ### Collections -/

/-- Whatever is read with so much fuel is keyed; so is a mapping that is read on behind pairs that
are. -/
structure ScansKeyed (fuel : Nat) : Prop where
  value : ∀ {text value rest}, scanValue fuel text = .ok (value, rest) → value.Keyed
  elements : ∀ {text elements rest}, scanElements fuel text = .ok (elements, rest) →
    ∀ element ∈ elements, element.Keyed
  pairs : ∀ {text entries value rest}, (entries.map Prod.fst).Nodup →
    (∀ entry ∈ entries, entry.2.Keyed) → scanPairs fuel (pairsOf entries) text = .ok (value, rest) →
    value.Keyed

namespace ScansKeyed

theorem of_scanValue (less : ScansKeyed fuel)
    (scanned : scanValue (fuel + 1) text = .ok (value, rest)) : value.Keyed := by
  unfold scanValue at scanned
  split at scanned
  · obtain ⟨⟨content, _⟩, -, same⟩ := bind_eq_ok_iff.mp scanned
    cases same
    exact .text content
  · split at scanned
    · cases scanned
      exact .list (by simp)
    · obtain ⟨_, found, same⟩ := bind_eq_ok_iff.mp scanned
      cases same
      exact .list (less.elements found)
  · split at scanned
    · cases scanned
      exact .empty
    · have nodup : (([] : List (String × Value)).map Prod.fst).Nodup := List.nodup_nil
      exact less.pairs nodup (by simp) scanned
  · exact .of_scanScalar scanned

theorem of_scanElements (less : ScansKeyed fuel)
    (scanned : scanElements (fuel + 1) text = .ok (elements, rest)) :
    ∀ element ∈ elements, element.Keyed := by
  unfold scanElements at scanned
  -- An element is read with less fuel, and so are those behind it.
  obtain ⟨_, here, further⟩ := bind_eq_ok_iff.mp scanned
  have first := less.value here
  dsimp only at further
  split at further
  · cases further
    exact List.forall_mem_singleton.mpr first
  · obtain ⟨_, found, same⟩ := bind_eq_ok_iff.mp further
    cases same
    exact List.forall_mem_cons.mpr ⟨first, less.elements found⟩
  · cases further

theorem of_scanPairs (less : ScansKeyed fuel) (nodup : (entries.map Prod.fst).Nodup)
    (each : ∀ entry ∈ entries, entry.2.Keyed)
    (scanned : scanPairs (fuel + 1) (pairsOf entries) text = .ok (value, rest)) :
    value.Keyed := by
  unfold scanPairs at scanned
  split at scanned
  · obtain ⟨⟨key, _⟩, -, further⟩ := bind_eq_ok_iff.mp scanned
    dsimp only at further
    split at further
    · obtain ⟨⟨first, _⟩, here, further⟩ := bind_eq_ok_iff.mp further
      dsimp only at further
      rw [insertPair_pairsOf] at further
      -- A key that has been read before gets the new value and stays the only one.
      have nodup : ((Association.insert entries key first).map Prod.fst).Nodup :=
        Association.nodup_insert nodup
      have each : ∀ entry ∈ Association.insert entries key first, entry.2.Keyed := by
        intro entry member
        rcases Association.mem_insert member with rfl | before
        · exact less.value here
        · exact each entry before
      split at further
      · cases further
        exact .mapping nodup each
      · exact less.pairs nodup each further
      · cases further
    · cases further
  · cases scanned

end ScansKeyed

theorem scansKeyed (fuel : Nat) : ScansKeyed fuel := by
  induction fuel with
  | zero =>
    refine ⟨fun scanned => ?_, fun scanned => ?_, fun _ _ scanned => ?_⟩
    all_goals cases scanned
  -- Values, elements and pairs are read by each other, and always with less fuel.
  | succ fuel less => exact ⟨less.of_scanValue, less.of_scanElements, less.of_scanPairs⟩

/-- What is read from a text is keyed. -/
theorem readJson_keyed {source : String} (read : readJson source = .ok value) : value.Keyed := by
  unfold readJson at read
  dsimp only at read
  split at read
  · cases read
  · obtain ⟨_, scanned, same⟩ := bind_eq_ok_iff.mp read
    split at same
    · cases same
      exact (scansKeyed _).value scanned
    · cases same

end EntryPoint.Document
