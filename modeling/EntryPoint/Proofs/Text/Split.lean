/-
# Parts of texts

A text without separator is one part; behind a separator the parts begin anew. So
texts that are joined by a separator that none of them holds are the parts again,
and the parts of any text are the text again when they are joined.
-/

import EntryPoint.Text.Split
import Mathlib.Data.List.TakeWhile

namespace EntryPoint.Text

variable {separator c : Char} {text first : List Char} {names : List String}

theorem partsOf_cons_separator (separator : Char) (text : List Char) :
    partsOf separator (separator :: text) = [] :: partsOf separator text := by
  rw [partsOf, splitAt]
  simp [partsOf]

theorem partsOf_eq (separator : Char) (text : List Char) :
    partsOf separator text = text.takeWhile (· ≠ separator) ::
      (if separator ∈ text then
        partsOf separator (text.drop ((text.takeWhile (· ≠ separator)).length + 1))
      else []) := by
  induction text with
  | nil => rfl
  | cons c text ih =>
    -- A separator closes an empty part; any other character comes in front of the first part.
    by_cases here : c = separator
    · subst here
      rw [partsOf_cons_separator]
      simp
    · rw [partsOf, splitAt]
      rw [partsOf] at ih
      obtain ⟨first, others⟩ := List.cons.inj ih
      simp [here, first, others, Ne.symm here]

theorem takeWhile_of_notMem (absent : separator ∉ text) : text.takeWhile (· ≠ separator) = text :=
  List.takeWhile_eq_self_iff.mpr fun c member => by
    simpa using fun same : c = separator => absent (same ▸ member)

theorem partsOf_of_notMem (absent : separator ∉ text) : partsOf separator text = [text] := by
  rw [partsOf_eq, if_neg absent, takeWhile_of_notMem absent]

theorem partsOf_append_separator (absent : separator ∉ first) (text : List Char) :
    partsOf separator (first ++ separator :: text) = first :: partsOf separator text := by
  have front : (first ++ separator :: text).takeWhile (· ≠ separator) = first := by
    rw [List.takeWhile_append, takeWhile_of_notMem absent]
    simp
  rw [partsOf_eq, front, if_pos (by simp)]
  simp

/-- An ending without separator belongs to the last part. -/
theorem exists_partsOf_append {ending : List Char} (absent : separator ∉ ending)
    (text : List Char) :
    ∃ front last, partsOf separator (text ++ ending) = front ++ [last ++ ending] := by
  induction text with
  | nil => exact ⟨[], [], partsOf_of_notMem absent⟩
  | cons c text ih =>
    obtain ⟨front, last, parts⟩ := ih
    rw [List.cons_append]
    by_cases here : c = separator
    · subst here
      rw [partsOf_cons_separator, parts]
      exact ⟨[] :: front, last, rfl⟩
    · -- The character comes in front of the first part, which may be the last one as well.
      have step : ∀ first others, partsOf separator (text ++ ending) = first :: others →
          partsOf separator (c :: (text ++ ending)) = (c :: first) :: others := by
        intro first others same
        rw [partsOf] at same
        obtain ⟨rfl, rfl⟩ := List.cons.inj same
        simp only [partsOf, splitAt, if_neg here]
      cases front with
      | nil => exact ⟨[], c :: last, step _ _ parts⟩
      | cons first front => exact ⟨(c :: first) :: front, last, step _ _ parts⟩

/-- No part holds the separator. -/
theorem notMem_of_mem_partsOf {part : List Char} (member : part ∈ partsOf separator text) :
    separator ∉ part := by
  induction text generalizing part with
  | nil =>
    obtain rfl := List.mem_singleton.mp member
    exact List.not_mem_nil
  | cons c text ih =>
    by_cases here : c = separator
    · rw [here, partsOf_cons_separator] at member
      rcases List.mem_cons.mp member with rfl | member
      · exact List.not_mem_nil
      · exact ih member
    · rw [partsOf, splitAt] at member
      simp only [here, if_false] at member
      rcases List.mem_cons.mp member with rfl | member
      · rw [List.mem_cons, not_or]
        exact ⟨Ne.symm here, ih (.head _)⟩
      · exact ih (.tail _ member)

/-! ### Joined texts -/

theorem toList_intercalate_cons (joint first : String) (names : List String) :
    (joint.intercalate (first :: names)).toList =
      first.toList ++ names.flatMap fun name => joint.toList ++ name.toList := by
  induction names generalizing first with
  | nil => simp
  | cons second others ih =>
    rw [String.intercalate_cons_cons, String.toList_append, ih]
    simp

/-- A character of joined texts is one of the joint or of a text. -/
theorem mem_intercalate {joint : String} (member : c ∈ (joint.intercalate names).toList) :
    c ∈ joint.toList ∨ ∃ name ∈ names, c ∈ name.toList := by
  cases names with
  | nil => simp at member
  | cons first others =>
    rw [toList_intercalate_cons, List.mem_append, List.mem_flatMap] at member
    rcases member with member | ⟨name, listed, member⟩
    · exact .inr ⟨first, .head _, member⟩
    · exact (List.mem_append.mp member).imp_right fun member => ⟨name, .tail _ listed, member⟩

/-- Texts that are joined by a separator are its parts, if none of them holds it. -/
theorem partsOf_intercalate {joint : String} (single : joint.toList = [separator])
    (nonempty : names ≠ []) (absent : ∀ name ∈ names, separator ∉ name.toList) :
    partsOf separator (joint.intercalate names).toList = names.map String.toList := by
  induction names with
  | nil => exact absurd rfl nonempty
  | cons first others ih =>
    have here := absent first (.head _)
    cases others with
    | nil => rw [String.intercalate_singleton, partsOf_of_notMem here]; rfl
    | cons second others =>
      have behind := ih (by simp) fun name member => absent name (.tail _ member)
      rw [String.intercalate_cons_cons, String.toList_append, String.toList_append, single,
        List.append_assoc, List.singleton_append, partsOf_append_separator here, behind]
      rfl

/-- The parts of a text are the text again when they are joined. -/
theorem intercalate_partsOf {joint : String} (single : joint.toList = [separator])
    (text : List Char) :
    joint.intercalate ((partsOf separator text).map String.ofList) = String.ofList text := by
  refine String.toList_injective ?_
  rw [String.toList_ofList]
  induction text with
  | nil => rfl
  | cons c text ih =>
    -- There is always a first part, to which a further character would be added.
    obtain ⟨first, others, parts⟩ : ∃ first others, partsOf separator text = first :: others :=
      ⟨_, _, rfl⟩
    rw [parts, List.map_cons, toList_intercalate_cons, single, String.toList_ofList] at ih
    by_cases here : c = separator
    · subst here
      rw [partsOf_cons_separator, parts, List.map_cons, toList_intercalate_cons, single]
      simpa using ih
    · have split : partsOf separator (c :: text) = (c :: first) :: others := by
        obtain ⟨same, behind⟩ := List.cons.inj parts
        rw [partsOf, splitAt]
        simp [here, same, behind]
      rw [split, List.map_cons, toList_intercalate_cons, single, String.toList_ofList,
        List.cons_append, ih]

end EntryPoint.Text
