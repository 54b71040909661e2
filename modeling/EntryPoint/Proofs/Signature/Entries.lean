/-
# What a signature is read from

A document is accepted exactly if each of its parts is, and the signature consists of
what the parts are read as. Of a list of entries, each value stands for one entry, in
its place.

## Main definitions

* `listedUnder` - the values in the list under a key.

## Main results

* `extract_eq_ok_iff` - a document is read part by part.
* `entries_eq_ok` - a list is read value by value.
-/

import EntryPoint.Proofs.Outcome
import EntryPoint.Signature.Extract

namespace EntryPoint

open Document Syntax

variable {key : String} {document : Pairs} {directory : Option Path} {signature : Signature}
  {listed : List Entry}

/-- The values in the list under a key. -/
def listedUnder (key : String) (document : Pairs) : List Value :=
  match Value.lookupD key document with
  | .list values => values
  | _ => []

/-- A list of values is read as entries only value by value. -/
theorem forall₂_of_mapM_eq_some {values : List Value} (read : values.mapM entryOf? = some listed) :
    List.Forall₂ (fun value entry => entryOf? value = some entry) values listed := by
  induction values generalizing listed with
  | nil =>
    obtain rfl := Option.some.inj read
    exact .nil
  | cons first rest ih =>
    rw [List.mapM_cons] at read
    obtain ⟨entry, here, read⟩ := Option.bind_eq_some_iff.mp read
    obtain ⟨others, behind, same⟩ := Option.bind_eq_some_iff.mp read
    obtain rfl := Option.some.inj same
    exact .cons here (ih behind)

/-- Each value in a list that is accepted stands for one entry. -/
theorem entries_eq_ok (accepted : entries document key = .ok listed) :
    List.Forall₂ (fun value entry => entryOf? value = some entry)
      (listedUnder key document) listed := by
  unfold entries at accepted
  unfold listedUnder
  generalize Value.lookupD key document = value at accepted ⊢
  cases value with
  | list values =>
    dsimp only at accepted ⊢
    split at accepted
    · -- Of all lists, only the empty one does not count as present.
      rename_i absent
      obtain rfl : values = [] := by simpa [Value.isTruthy] using absent
      obtain rfl := Except.ok.inj accepted
      exact .nil
    · split at accepted
      · rename_i read
        obtain rfl := Except.ok.inj accepted
        exact forall₂_of_mapM_eq_some read
      · cases accepted
  | _ =>
    dsimp only at accepted ⊢
    split at accepted
    · obtain rfl := Except.ok.inj accepted
      exact .nil
    · cases accepted

/-- An entry of a list that is accepted stands for a value in the list. -/
theorem exists_of_mem_entries (accepted : entries document key = .ok listed) {entry : Entry}
    (member : entry ∈ listed) :
    ∃ value ∈ listedUnder key document, entryOf? value = some entry := by
  have each := entries_eq_ok accepted
  generalize listedUnder key document = values at each ⊢
  clear accepted
  induction each with
  | nil => cases member
  | cons here _ ih =>
    rcases List.mem_cons.mp member with rfl | among
    · exact ⟨_, .head _, here⟩
    · obtain ⟨value, behind, found⟩ := ih among
      exact ⟨value, .tail _ behind, found⟩

theorem writtenText_eq_ok {value : Value} {text : String}
    (written : writtenText value = .ok text) :
    text = value.plainText := by
  unfold writtenText at written
  split at written
  · exact (Except.ok.inj written).symm
  · cases written

/-- A document is accepted exactly if each part of it is, as the same part of the signature. -/
theorem extract_eq_ok_iff : extract document directory = .ok signature ↔
    extractName document = .ok signature.name ∧
    (entries document "positionals" >>= List.mapM Entry.positional) =
      .ok signature.positionals ∧
    (entries document "options" >>= List.mapM Entry.option) = .ok signature.options ∧
    extractDescription document = .ok signature.description ∧
    extractReferences directory (Value.lookupD "ref" document) = .ok signature.references := by
  -- The steps are the fields in the order in which they are extracted.
  obtain ⟨name, description, positionals, options, references⟩ := signature
  simp only [extract, bind_eq_ok_iff, Except.ok.injEq, Signature.mk.injEq]
  constructor
  · rintro ⟨_, named, found, positional, _, positionals, others, option, _, options, _, described,
      _, referenced, rfl, rfl, rfl, rfl, rfl⟩
    exact ⟨named, ⟨found, positional, positionals⟩, ⟨others, option, options⟩, described,
      referenced⟩
  · rintro ⟨named, ⟨found, positional, positionals⟩, ⟨others, option, options⟩, described,
      referenced⟩
    exact ⟨_, named, found, positional, _, positionals, others, option, _, options, _, described,
      _, referenced, rfl, rfl, rfl, rfl, rfl⟩

end EntryPoint
