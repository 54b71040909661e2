/-
# What a terminal shows

A terminal does not show some control characters and shows spaces for tabs. It leaves
all other characters alone, and those that weigh anything are among them.

## Main definitions

* `Console.terminalForm` - a text as a terminal shows it.

## Main results

* `Console.visibleText_eq` - a marked up text shows the terminal form of its pieces.
* `Console.weight_terminalForm` - a terminal takes away nothing that weighs.
* `Console.terminalForm_newline` - the end of a line stays at the end.
* `Console.terminalForm_eq_self_iff` - which texts a terminal shows as they are.
-/

import EntryPoint.Console
import EntryPoint.Proofs.Console.Emoji

namespace EntryPoint.Console

open Text

variable {text : List Char}

/-- A text as a terminal shows it: without silent characters and with spaces for its tabs. -/
def terminalForm (text : String) : String :=
  String.ofList (expandTabs cellCount terminalTab (text.toList.filter (!isSilent ·)))

/-- What is visible of a markup is the form that a terminal gives to its text. -/
theorem visibleText_eq (markup : String) :
    visibleText markup =
      (fun text => terminalForm (String.ofList text)) <$> shownText [] (pieces markup.toList) := by
  unfold visibleText terminalForm
  cases shownText [] (pieces markup.toList) with
  | error mistake => rfl
  | ok text => simp [bind, Except.bind, pure, Except.pure, Functor.map, Except.map]

/-! ### Weights -/

theorem characterWeight_of_isSilent {c : Char} (silent : isSilent c) : characterWeight c = 0 := by
  have code : c.toNat = 7 ∨ c.toNat = 8 ∨ c.toNat = 11 ∨ c.toNat = 12 ∨ c.toNat = 13 := by
    simpa [isSilent] using silent
  -- Each of the characters with a weight of its own is told apart by being none of the silent ones.
  have other : ∀ d : Char, c = d → ¬isSilent d → False := by
    rintro d rfl loud
    exact loud silent
  rw [characterWeight, if_neg fun same => other _ same (by decide), if_neg]
  rintro (same | same)
  · exact other _ same (by decide)
  · exact other _ same (by decide)

theorem weight_filter (text : List Char) : weight (text.filter (!isSilent ·)) = weight text := by
  induction text with
  | nil => rfl
  | cons c text ih =>
    by_cases silent : isSilent c
    · rw [List.filter_cons_of_neg (by simpa using silent), ih, weight_cons,
        characterWeight_of_isSilent silent, Nat.zero_add]
    · rw [List.filter_cons_of_pos (by simpa using silent), weight_cons, weight_cons, ih]

/-- Neither a tab nor the blanks in its place weigh anything. -/
theorem weight_expandTabsFrom (column : ℕ) (text : List Char) :
    weight (expandTabsFrom cellCount terminalTab column text) = weight text := by
  have spaces (count : ℕ) : weight (List.replicate count ' ') = 0 := by
    rw [weight, List.map_replicate, List.sum_replicate_nat]
    exact Nat.mul_zero count
  have tab : characterWeight '\t' = 0 := rfl
  fun_induction expandTabsFrom cellCount terminalTab column text with
  | case1 => rfl
  | case2 column rest count ih => rw [weight_append, spaces, ih, weight_cons, tab]
  | case3 column c rest other ih => rw [weight_cons, weight_cons, ih]

/-- A terminal takes away nothing that weighs. -/
theorem weight_terminalForm (text : String) :
    weight (terminalForm text).toList = weight text.toList := by
  rw [terminalForm, String.toList_ofList, expandTabs, weight_expandTabsFrom, weight_filter]

/-! ### Texts that a terminal leaves alone -/

/-- The end of a line stays at the end. -/
theorem terminalForm_newline (text : String) :
    terminalForm (text ++ "\n") = terminalForm text ++ "\n" := by
  -- A line feed moves no tab in front of it, and no tab stands behind it.
  have behind (column : ℕ) (text : List Char) :
      expandTabsFrom cellCount terminalTab column (text ++ ['\n']) =
        expandTabsFrom cellCount terminalTab column text ++ ['\n'] := by
    fun_induction expandTabsFrom cellCount terminalTab column text with
    | case1 => rfl
    | case2 column rest count ih =>
      rw [List.cons_append, expandTabsFrom, if_pos rfl, List.append_assoc, ← ih]
    | case3 column c rest other ih =>
      rw [List.cons_append, expandTabsFrom, if_neg other, ih, List.cons_append]
  have loud : ['\n'].filter (!isSilent ·) = ['\n'] := by decide
  apply String.toList_injective
  have letters (text : String) : (text ++ "\n").toList = text.toList ++ ['\n'] :=
    String.toList_append
  rw [letters, terminalForm, terminalForm, letters, String.toList_ofList, String.toList_ofList,
    List.filter_append, loud, expandTabs, behind, expandTabs]

theorem mem_expandTabsFrom {column : ℕ} {c : Char}
    (member : c ∈ expandTabsFrom cellCount terminalTab column text) :
    c = ' ' ∨ c ≠ '\t' ∧ c ∈ text := by
  fun_induction expandTabsFrom cellCount terminalTab column text with
  | case1 => cases member
  | case2 column rest count ih =>
    rcases List.mem_append.mp member with space | behind
    · exact .inl (List.eq_of_mem_replicate space)
    · exact (ih behind).imp_right fun ⟨other, inside⟩ => ⟨other, .tail _ inside⟩
  | case3 column d rest other ih =>
    rcases List.mem_cons.mp member with rfl | behind
    · exact .inr ⟨other, List.mem_cons_self⟩
    · exact (ih behind).imp_right fun ⟨other, inside⟩ => ⟨other, .tail _ inside⟩

theorem expandTabsFrom_of_notMem (absent : '\t' ∉ text) (column : ℕ) :
    expandTabsFrom cellCount terminalTab column text = text := by
  induction text generalizing column with
  | nil => rfl
  | cons c text ih =>
    obtain ⟨other, absent⟩ := not_or.mp (List.mem_cons.not.mp absent)
    rw [expandTabsFrom, if_neg fun same => other same.symm, ih absent]

/-- A terminal shows a text as it is if and only if it has no tabs and no silent characters. -/
theorem terminalForm_eq_self_iff {text : String} :
    terminalForm text = text ↔ ∀ c ∈ text.toList, c ≠ '\t' ∧ ¬isSilent c := by
  constructor
  · intro same c member
    have shown : c ∈ expandTabs cellCount terminalTab (text.toList.filter (!isSilent ·)) := by
      rw [← same, terminalForm, String.toList_ofList] at member
      exact member
    -- What is shown are the blanks of tabs and characters that are left as they are.
    rcases mem_expandTabsFrom shown with rfl | ⟨other, inside⟩
    · exact ⟨by decide, by decide⟩
    · exact ⟨other, by simpa using (List.mem_filter.mp inside).2⟩
  · intro plain
    have loud : text.toList.filter (!isSilent ·) = text.toList :=
      List.filter_eq_self.mpr fun c member => by simpa using (plain c member).2
    have untabbed : '\t' ∉ text.toList := fun member => (plain _ member).1 rfl
    rw [terminalForm, loud, expandTabs, expandTabsFrom_of_notMem untabbed, String.ofList_toList]

end EntryPoint.Console
