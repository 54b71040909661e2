/-
# Numerals read back

A numeral that is filled up with zeros has exactly the width that it is filled up
to, as long as the number fits, and spells the number that it was made from.

## Main results

* `ofDigits_lt` - the numbers that so many digits spell.
* `ofDigits_paddedNumeral` - the number that a numeral spells.
* `decimal_injective` - numbers have different decimal texts.
-/

import EntryPoint.Text.Digits
import Mathlib.Data.List.Induction
import Mathlib.Tactic.IntervalCases

namespace EntryPoint.Text

variable {base width n : Nat}

/-! ### Digits -/

/-- A digit is read as the number that it is written for. -/
theorem digitValue?_digitChar (small : n < 16) : digitValue? (Nat.digitChar n) = some n := by
  interval_cases n <;> rfl

theorem isDigitOf_digitChar (small : base ≤ 16) (digit : n < base) :
    isDigitOf base (Nat.digitChar n) := by
  rw [isDigitOf, digitValue?_digitChar (by omega)]
  exact decide_eq_true digit

theorem isDigitOf_zero (positive : 0 < base) : isDigitOf base '0' :=
  decide_eq_true (show 0 < base from positive)

/-! ### Numerals -/

theorem ofDigits_append_singleton (digits : List Char) (c : Char) :
    ofDigits base (digits ++ [c]) = ofDigits base digits * base + (digitValue? c).getD 0 := by
  rw [ofDigits, List.foldl_append]
  rfl

/-- Digits spell no number that takes more of them. -/
theorem ofDigits_lt {digits : List Char} (all : ∀ c ∈ digits, isDigitOf base c) :
    ofDigits base digits < base ^ digits.length := by
  -- From the last digit on, as the value is read from the left.
  induction digits using List.reverseRecOn with
  | nil => exact Nat.one_pos
  | append_singleton digits c ih =>
    rw [List.forall_mem_append, List.forall_mem_singleton] at all
    have digit : (digitValue? c).getD 0 < base := by
      have digit := all.2
      unfold isDigitOf at digit
      split at digit
      · rename_i found
        rw [found]
        exact of_decide_eq_true digit
      · cases digit
    have fewer := ih all.1
    rw [ofDigits_append_singleton, List.length_append, List.length_singleton, Nat.pow_succ]
    calc ofDigits base digits * base + (digitValue? c).getD 0
        < ofDigits base digits * base + base := Nat.add_lt_add_left digit _
      _ = (ofDigits base digits + 1) * base := (Nat.succ_mul _ _).symm
      _ ≤ base ^ digits.length * base := Nat.mul_le_mul_right _ fewer

/-- A numeral spells its number: its last digit is the remainder, and the others are the numeral of
the quotient. -/
theorem ofDigits_toDigits (large : 1 < base) (small : base ≤ 16) :
    ofDigits base (Nat.toDigits base n) = n := by
  -- The induction is on the number itself, as the digits are those of its quotient and one more.
  induction n using Nat.strongRecOn with
  | ind n ih =>
    rw [Nat.toDigits_eq_if large]
    split
    · rename_i digit
      simp [ofDigits, digitValue?_digitChar (show n < 16 by omega)]
    · rename_i further
      have smaller : n / base < n := Nat.div_lt_self (by omega) large
      have digit : n % base < 16 := (Nat.mod_lt n (by omega)).trans_le small
      rw [ofDigits_append_singleton, ih _ smaller, digitValue?_digitChar digit, Option.getD_some,
        Nat.mul_comm, Nat.div_add_mod]

/-- A numeral is written with digits of its base. -/
theorem isDigitOf_of_mem_toDigits (large : 1 < base) (small : base ≤ 16) {c : Char}
    (member : c ∈ Nat.toDigits base n) : isDigitOf base c := by
  induction n using Nat.strongRecOn with
  | ind n ih =>
    rw [Nat.toDigits_eq_if large] at member
    split at member
    · rename_i digit
      obtain rfl := List.mem_singleton.mp member
      exact isDigitOf_digitChar small digit
    · rcases List.mem_append.mp member with member | member
      · exact ih _ (Nat.div_lt_self (by omega) large) member
      · obtain rfl := List.mem_singleton.mp member
        exact isDigitOf_digitChar small (Nat.mod_lt n (by omega))

/-! ### Padding -/

theorem ofDigits_replicate_append (count : Nat) (digits : List Char) :
    ofDigits base (List.replicate count '0' ++ digits) = ofDigits base digits := by
  induction count with
  | zero => rfl
  | succ count ih =>
    rw [← ih, List.replicate_succ]
    simp [ofDigits, digitValue?]

/-- Leading zeros change nothing about the number that a numeral spells. -/
theorem ofDigits_paddedNumeral (large : 1 < base) (small : base ≤ 16) :
    ofDigits base (paddedNumeral base width n) = n := by
  rw [paddedNumeral, ofDigits_replicate_append]
  exact ofDigits_toDigits large small

/-- A number that fits is padded to exactly the width. -/
theorem length_paddedNumeral (large : 1 < base) (positive : 0 < width) (fits : n < base ^ width) :
    (paddedNumeral base width n).length = width := by
  have short : (Nat.toDigits base n).length ≤ width :=
    (Nat.length_toDigits_le_iff large positive).mpr fits
  rw [paddedNumeral, numeral, List.length_append, List.length_replicate]
  exact Nat.sub_add_cancel short

theorem isDigitOf_of_mem_paddedNumeral (large : 1 < base) (small : base ≤ 16) {c : Char}
    (member : c ∈ paddedNumeral base width n) : isDigitOf base c := by
  rcases List.mem_append.mp member with member | member
  · obtain rfl := List.eq_of_mem_replicate member
    exact isDigitOf_zero (by omega)
  · exact isDigitOf_of_mem_toDigits large small member

/-! ### Decimal texts -/

/-- Numbers have different decimal texts. -/
theorem decimal_injective : Function.Injective decimal := by
  intro m n same
  have digits : Nat.toDigits 10 m = Nat.toDigits 10 n := String.ofList_injective same
  have spelled := congrArg (ofDigits 10) digits
  rwa [ofDigits_toDigits (by decide) (by decide), ofDigits_toDigits (by decide) (by decide)]
    at spelled

end EntryPoint.Text
