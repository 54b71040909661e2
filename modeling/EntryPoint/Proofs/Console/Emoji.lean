/-
# Codes within texts

Replacing the codes of a text takes away the colons around each code that stands for
an emoji, and no emoji brings one back: the characters of emoji are none of those that
codes, tags and the escapes of tags are made of. So a text can be weighed by these
characters, and it is as heavy after the replacement as before if and only if none of
its codes stands for an emoji.

## Main definitions

* `Console.weight` - how many characters of a text are of that kind.
* `Console.codes` - the codes that the replacement meets.

## Main results

* `Console.weight_emojiOfCode?` - emoji weigh nothing.
* `Console.weight_replaceCodes_add` - what the replacement takes away.
* `Console.weight_replaceCodes_eq_iff` - which texts keep their weight.
* `Console.replaceCodes_eq_self_iff` - which texts it leaves as they are.
-/

import EntryPoint.Console.Emoji
import Mathlib.Algebra.GroupWithZero.Nat
import Mathlib.Tactic.ByContra

namespace EntryPoint.Console

open Text

/-! ### Weights -/

/-- The weight of a character: one for a colon and an opening bracket, two for a backslash, so that
a bracket which an escape brings to light weighs less than the escape. -/
def characterWeight (c : Char) : ℕ :=
  if c = '\\' then 2 else if c = '[' ∨ c = ':' then 1 else 0

/-- The weight of a text. -/
def weight (text : List Char) : ℕ :=
  (text.map characterWeight).sum

variable {text code emoji : List Char}

@[simp] theorem weight_nil : weight [] = 0 := rfl

@[simp] theorem weight_cons (c : Char) (text : List Char) :
    weight (c :: text) = characterWeight c + weight text := by
  rw [weight, List.map_cons, List.sum_cons, weight]

@[simp] theorem weight_append (text text' : List Char) :
    weight (text ++ text') = weight text + weight text' := by
  rw [weight, List.map_append, List.sum_append_nat, weight, weight]

@[simp] theorem weight_reverse (text : List Char) : weight text.reverse = weight text := by
  rw [weight, List.map_reverse, List.sum_reverse_nat, weight]

/-! ### Emoji -/

/-- No emoji has a name whose characters weigh anything. -/
theorem weight_of_mem_emojiTable {entry : String × List ℕ} (member : entry ∈ emojiTable) :
    weight (entry.2.map Char.ofNat) = 0 := by
  have all : emojiTable.all (fun entry => weight (entry.2.map Char.ofNat) = 0) = true := by
    decide +kernel
  simpa using List.all_eq_true.mp all entry member

theorem weight_splitForm (code : List Char) :
    weight ((splitForm code).2.map Char.ofNat) = 0 := by
  unfold splitForm
  split
  · rename_i ending selector found
    have member := List.mem_of_find?_eq_some found
    have selectors : ∀ form ∈ formEndings, weight [Char.ofNat form.2] = 0 := by decide
    exact selectors _ member
  · rfl

/-- Emoji weigh nothing, whatever form is asked for. -/
theorem weight_emojiOfCode? (stands : emojiOfCode? code = some emoji) : weight emoji = 0 := by
  have form : emojiOfCode? code =
      (emojiTable.lookup (lower (String.ofList (splitForm code).1))).map
        fun codePoints => (codePoints ++ (splitForm code).2).map Char.ofNat := rfl
  rw [form] at stands
  obtain ⟨codePoints, named, rfl⟩ := Option.map_eq_some_iff.mp stands
  obtain ⟨before, after, split, -⟩ := List.lookup_eq_some_iff.mp named
  have member : (_, codePoints) ∈ emojiTable := split ▸ List.mem_append_right _ List.mem_cons_self
  rw [List.map_append, weight_append, weight_of_mem_emojiTable member, weight_splitForm]

/-! ### Codes -/

/-- The codes that the replacement meets in a text from a place on, given the characters behind a
colon that may open a code, last first. -/
def codesFrom : Option (List Char) → List Char → List (List Char)
  | _, [] => []
  | none, c :: rest => if c = ':' then codesFrom (some []) rest else codesFrom none rest
  | some pending, c :: rest =>
    if c = ':' then pending.reverse :: codesFrom none rest
    else if isBlank c then codesFrom none rest
    else codesFrom (some (c :: pending)) rest

/-- The codes that the replacement meets in a text. A code that stands for nothing uses up the colon
that closes it. -/
def codes (text : List Char) : List (List Char) :=
  codesFrom none text

/-- Nothing but a colon opens a code. -/
theorem codes_append {before : List Char} (plain : ':' ∉ before) (text : List Char) :
    codes (before ++ text) = codes text := by
  induction before with
  | nil => rfl
  | cons c before ih =>
    obtain ⟨other, plain⟩ := not_or.mp (List.mem_cons.not.mp plain)
    rw [codes, List.cons_append, codesFrom, if_neg fun same => other same.symm]
    exact ih plain

/-- The text that is pending. -/
def pendingText : Option (List Char) → List Char
  | none => []
  | some pending => ':' :: pending.reverse

/-- What the replacement of a code takes away: the code with its colons. -/
def codeWeight (code : List Char) : ℕ :=
  if (emojiOfCode? code).isSome then 2 + weight code else 0

theorem characterWeight_colon : characterWeight ':' = 1 := rfl

theorem weight_getD_emojiOfCode? (code : List Char) :
    weight ((emojiOfCode? code).getD (':' :: code ++ [':'])) + codeWeight code =
      2 + weight code := by
  unfold codeWeight
  cases stands : emojiOfCode? code with
  | none =>
    simp [characterWeight_colon]
    omega
  | some emoji => simp [weight_emojiOfCode? stands]

theorem weight_replaceCodesFrom_add (pending : Option (List Char)) (text : List Char) :
    weight (replaceCodesFrom pending text) + ((codesFrom pending text).map codeWeight).sum =
      weight (pendingText pending) + weight text := by
  fun_induction replaceCodesFrom pending text with
  | case1 => simp [codesFrom, pendingText]
  | case2 pending => simp [codesFrom, pendingText]
  | case3 rest ih =>
    rw [codesFrom, if_pos rfl, ih]
    simp [pendingText]
  | case4 c rest plain ih =>
    rw [codesFrom, if_neg plain, weight_cons, weight_cons, Nat.add_assoc, ih]
    omega
  | case5 pending rest ih =>
    -- The colon closes the code, and what follows it is outside of codes.
    have code := weight_getD_emojiOfCode? pending.reverse
    rw [codesFrom, if_pos rfl, List.map_cons, List.sum_cons]
    simp only [weight_append, weight_cons, weight_reverse, pendingText, characterWeight_colon,
      weight_nil] at ih code ⊢
    omega
  | case6 pending c rest plain blank ih =>
    rw [codesFrom, if_neg plain, if_pos blank]
    simp only [weight_append, weight_cons, weight_reverse, pendingText, weight_nil] at ih ⊢
    omega
  | case7 pending c rest plain unbroken ih =>
    rw [codesFrom, if_neg plain, if_neg unbroken, ih]
    simp only [weight_cons, weight_reverse, pendingText]
    omega

/-- A text loses what its codes for emoji weigh. -/
theorem weight_replaceCodes_add (text : List Char) :
    weight (replaceCodes text) + ((codes text).map codeWeight).sum = weight text := by
  rw [replaceCodes, codes, weight_replaceCodesFrom_add, pendingText, weight_nil, Nat.zero_add]

theorem weight_replaceCodes_le (text : List Char) : weight (replaceCodes text) ≤ weight text := by
  have lost := weight_replaceCodes_add text
  omega

/-- Codes that stand for nothing are left as they are. -/
theorem replaceCodesFrom_of_forall_none {pending : Option (List Char)}
    (meaningless : ∀ code ∈ codesFrom pending text, emojiOfCode? code = none) :
    replaceCodesFrom pending text = pendingText pending ++ text := by
  -- The cases are those of the replacement; only the end of a code asks what it means.
  fun_induction replaceCodesFrom pending text with
  | case1 => rfl
  | case2 pending => simp [pendingText]
  | case3 rest ih =>
    rw [codesFrom, if_pos rfl] at meaningless
    rw [ih meaningless]
    simp [pendingText]
  | case4 c rest plain ih =>
    rw [codesFrom, if_neg plain] at meaningless
    rw [ih meaningless]
    simp [pendingText]
  | case5 pending rest ih =>
    rw [codesFrom, if_pos rfl, List.forall_mem_cons] at meaningless
    rw [meaningless.1, ih meaningless.2]
    simp [pendingText]
  | case6 pending c rest plain blank ih =>
    rw [codesFrom, if_neg plain, if_pos blank] at meaningless
    rw [ih meaningless]
    simp [pendingText]
  | case7 pending c rest plain unbroken ih =>
    rw [codesFrom, if_neg plain, if_neg unbroken] at meaningless
    rw [ih meaningless]
    simp [pendingText]

/-- A text keeps its weight only if none of its codes stands for an emoji, and then it is left as it
is. -/
theorem weight_replaceCodes_eq_iff : weight (replaceCodes text) = weight text ↔
    ∀ code ∈ codes text, emojiOfCode? code = none := by
  constructor
  · intro kept code member
    by_contra stands
    have lost := weight_replaceCodes_add text
    have some : 0 < codeWeight code := by
      rw [codeWeight, if_pos (Option.isSome_iff_ne_none.mpr stands)]
      omega
    have counted : 0 < ((codes text).map codeWeight).sum :=
      List.sum_pos_iff_exists_pos_nat.mpr ⟨_, List.mem_map_of_mem member, some⟩
    omega
  · intro meaningless
    rw [replaceCodes, replaceCodesFrom_of_forall_none meaningless]
    rfl

theorem replaceCodes_eq_self_iff :
    replaceCodes text = text ↔ ∀ code ∈ codes text, emojiOfCode? code = none := by
  constructor
  · intro same
    exact weight_replaceCodes_eq_iff.mp (congrArg weight same)
  · exact replaceCodesFrom_of_forall_none

end EntryPoint.Console
