/-
# Written documents read back

What the writer of JSON writes over several lines, the reader reads back: a text
character by character, each by itself or through its escape, and a mapping pair by
pair, as long as no key occurs twice.

## Main definitions

* `ReadsBack` - a written value is read again, whatever follows it.
* `pairsOf` - a mapping with texts as keys.

## Main results

* `scanText_escapeJson` - texts read back.
* `ReadsBack.mapping` - mappings read back if their values do.
* `readJson_writeJson` - so do whole documents.
-/

import EntryPoint.Document.Json.Reader
import EntryPoint.Document.Json.Writer
import EntryPoint.Proofs.Outcome
import EntryPoint.Proofs.Text.Digits
import Mathlib.Data.List.Basic
import Mathlib.Tactic.SplitIfs

namespace EntryPoint.Document

open Text

variable {style : JsonStyle} {rest : List Char} {fuel start : Nat}

/-! ### Code units -/

theorem fourDigits?_paddedNumeral {unit : Nat} (fits : unit < 0x10000) :
    fourDigits? (paddedNumeral 16 4 unit ++ rest) = some unit := by
  have width : (paddedNumeral 16 4 unit).length = 4 :=
    length_paddedNumeral (by decide) (by decide) fits
  have digits : (paddedNumeral 16 4 unit).all (isDigitOf 16) :=
    List.all_eq_true.mpr fun _ => isDigitOf_of_mem_paddedNumeral (by decide) (by decide)
  unfold fourDigits?
  rw [List.take_left' width]
  simp [width, digits, ofDigits_paddedNumeral (show 1 < 16 by decide) (show 16 ≤ 16 by decide)]

/-- A code unit is read where the text goes on behind it. -/
theorem scanUnit_paddedNumeral {unit : Nat} (fits : unit < 0x10000) (follows : rest ≠ []) :
    scanUnit (paddedNumeral 16 4 unit ++ rest) = .ok (unit, rest) := by
  have width : (paddedNumeral 16 4 unit).length = 4 :=
    length_paddedNumeral (by decide) (by decide) fits
  have long : ¬(paddedNumeral 16 4 unit ++ rest).length ≤ 4 := by
    have := List.length_pos_iff.mpr follows
    rw [List.length_append, width]
    omega
  unfold scanUnit
  rw [if_neg long, fourDigits?_paddedNumeral fits]
  simp [List.drop_left' width]

/-- Two surrogates are read as one character. -/
theorem scanCodeEscape_surrogates {high low : Nat} (isHigh : 0xd800 ≤ high ∧ high < 0xdc00)
    (isLow : 0xdc00 ≤ low ∧ low < 0xe000) (follows : rest ≠ []) :
    scanCodeEscape (paddedNumeral 16 4 high ++ (unitEscape low ++ rest)) =
      .ok (Char.ofNat (0x10000 + (high - 0xd800) * 0x400 + (low - 0xdc00)), rest) := by
  have width : (paddedNumeral 16 4 low).length = 4 :=
    length_paddedNumeral (by decide) (by decide) (by omega)
  have room : 6 < (unitEscape low ++ rest).length := by
    have := List.length_pos_iff.mpr follows
    rw [List.length_append, unitEscape, List.length_cons, List.length_cons, width]
    omega
  unfold scanCodeEscape
  rw [scanUnit_paddedNumeral (by omega) (by simp [unitEscape])]
  simp only [bind, Except.bind]
  rw [if_pos ⟨isHigh.1, isHigh.2, room⟩]
  simp only [unitEscape, List.cons_append]
  rw [fourDigits?_paddedNumeral (by omega)]
  simp only [isLow, and_self, if_true]
  rw [List.drop_left' width]

/-- A number behind the first plane is split into the bits of two surrogates. -/
theorem surrogates_spell {n : Nat} (large : 0x10000 ≤ n) (bounded : n < 0x110000) :
    (0xd800 ≤ 0xd800 + (n - 0x10000) / 0x400 ∧ 0xd800 + (n - 0x10000) / 0x400 < 0xdc00) ∧
    (0xdc00 ≤ 0xdc00 + (n - 0x10000) % 0x400 ∧ 0xdc00 + (n - 0x10000) % 0x400 < 0xe000) ∧
    0x10000 + (0xd800 + (n - 0x10000) / 0x400 - 0xd800) * 0x400 +
      (0xdc00 + (n - 0x10000) % 0x400 - 0xdc00) = n := by
  have upper : (n - 0x10000) / 0x400 < 0x400 := Nat.div_lt_of_lt_mul (by omega)
  have lower : (n - 0x10000) % 0x400 < 0x400 := Nat.mod_lt _ (by decide)
  refine ⟨⟨Nat.le_add_right _ _, by omega⟩, ⟨Nat.le_add_right _ _, by omega⟩, ?_⟩
  rw [Nat.add_sub_cancel_left, Nat.add_sub_cancel_left, Nat.add_assoc, Nat.div_add_mod',
    Nat.add_sub_cancel' large]

theorem unitEscape_append (unit : Nat) :
    unitEscape unit ++ rest = '\\' :: 'u' :: (paddedNumeral 16 4 unit ++ rest) := rfl

/-- The escape of a character by code units is read as that character. -/
theorem scanCodeEscape_codeEscape (c : Char) (follows : rest ≠ []) :
    ∃ digits, codeEscape c ++ rest = '\\' :: 'u' :: digits ∧
      scanCodeEscape digits = .ok (c, rest) := by
  have valid : c.toNat.isValidChar := c.valid
  unfold codeEscape
  by_cases small : c.toNat < 0x10000
  · rw [if_pos small, unitEscape_append]
    refine ⟨_, rfl, ?_⟩
    -- No character is a surrogate, so that no second unit is looked for.
    have single : ¬(0xd800 ≤ c.toNat ∧ c.toNat < 0xdc00 ∧ 6 < rest.length) := by
      rcases valid with low | ⟨high, -⟩ <;> omega
    unfold scanCodeEscape
    rw [scanUnit_paddedNumeral small follows]
    simp only [bind, Except.bind]
    rw [if_neg single, if_pos valid, Char.ofNat_toNat]
  · have bounded : c.toNat < 0x110000 := by
      rcases valid with low | ⟨-, high⟩ <;> omega
    obtain ⟨isHigh, isLow, number⟩ := surrogates_spell (Nat.le_of_not_lt small) bounded
    rw [if_neg small, List.append_assoc, unitEscape_append]
    exact ⟨_, rfl, by rw [scanCodeEscape_surrogates isHigh isLow follows, number,
      Char.ofNat_toNat]⟩

/-! ### Texts -/

/-- What the escape of a character is: the character itself, a letter, or its code units. -/
theorem escapeJson_cases (escapes : Bool) (c : Char) :
    (escapeJson escapes c = [c] ∧ c ≠ '"' ∧ c ≠ '\\' ∧ ¬c.toNat < 32) ∨
    (∃ letter, escapeJson escapes c = ['\\', letter] ∧ letter ≠ 'u' ∧
      letterEscape? letter = some c) ∨
    escapeJson escapes c = codeEscape c := by
  unfold escapeJson
  split_ifs with quote backslash feed carriage tab form back other
  · exact .inr (.inl ⟨'"', rfl, by decide, by rw [quote]; rfl⟩)
  · exact .inr (.inl ⟨'\\', rfl, by decide, by rw [backslash]; rfl⟩)
  · exact .inr (.inl ⟨'n', rfl, by decide, by rw [feed]; rfl⟩)
  · exact .inr (.inl ⟨'r', rfl, by decide, by rw [carriage]; rfl⟩)
  · exact .inr (.inl ⟨'t', rfl, by decide, by rw [tab]; rfl⟩)
  · exact .inr (.inl ⟨'f', rfl, by decide, by rw [form]; rfl⟩)
  · exact .inr (.inl ⟨'b', rfl, by decide, by rw [back]; rfl⟩)
  · exact .inr (.inr rfl)
  · exact .inl ⟨rfl, quote, backslash, fun control => other (.inl control)⟩

/-- A character in front of a text, where that text is read. -/
def Scanned.cons (c : Char) (scanned : Except Mistake (List Char × List Char)) :
    Except Mistake (List Char × List Char) :=
  scanned.map fun (text, rest) => (c :: text, rest)

/-- The escape of a character takes one step. -/
theorem scanTextWithin_escapeJson (escapes : Bool) (c : Char) (follows : rest ≠ []) :
    scanTextWithin start (fuel + 1) (escapeJson escapes c ++ rest) =
      Scanned.cons c (scanTextWithin start fuel rest) := by
  have further : (do
      let (text, rest) ← scanTextWithin start fuel rest
      Except.ok (c :: text, rest)) = Scanned.cons c (scanTextWithin start fuel rest) := by
    cases scanTextWithin start fuel rest <;> rfl
  rcases escapeJson_cases escapes c with
    ⟨plain, quote, backslash, control⟩ | ⟨letter, escaped, code, meaning⟩ | escaped
  · rw [plain, List.singleton_append, scanTextWithin.eq_def]
    dsimp only
    rw [if_neg quote, if_neg backslash, if_neg control, further]
  · rw [escaped]
    simp only [List.cons_append, List.nil_append]
    rw [scanTextWithin.eq_def]
    simp only [Char.reduceEq, if_false, if_true, meaning]
    exact further
  · obtain ⟨digits, written, read⟩ := scanCodeEscape_codeEscape c follows
    rw [escaped, written, scanTextWithin.eq_def]
    simp only [Char.reduceEq, if_false, if_true, read]
    exact further

/-- A text between quotes is read up to its closing quote. -/
theorem scanTextWithin_flatMap (escapes : Bool) (text : List Char) (enough : text.length < fuel) :
    scanTextWithin start fuel (text.flatMap (escapeJson escapes) ++ '"' :: rest) =
      .ok (text, rest) := by
  induction text generalizing fuel with
  | nil =>
    obtain ⟨fuel, rfl⟩ := Nat.exists_eq_add_one_of_ne_zero (Nat.ne_zero_of_lt enough)
    rfl
  | cons c text ih =>
    obtain ⟨fuel, rfl⟩ := Nat.exists_eq_add_one_of_ne_zero (Nat.ne_zero_of_lt enough)
    have fewer : text.length < fuel := by simpa using enough
    rw [List.flatMap_cons, List.append_assoc, scanTextWithin_escapeJson escapes c (by simp),
      ih fewer]
    rfl

theorem length_le_length_flatMap_escapeJson (escapes : Bool) (text : List Char) :
    text.length ≤ (text.flatMap (escapeJson escapes)).length := by
  induction text with
  | nil => exact Nat.le_refl 0
  | cons c text ih =>
    have positive : 1 ≤ (escapeJson escapes c).length := by
      rcases escapeJson_cases escapes c with ⟨plain, -⟩ | ⟨letter, escaped, -⟩ | escaped
      · rw [plain]
        exact Nat.le_refl 1
      · rw [escaped]
        exact Nat.le_succ 1
      · obtain ⟨digits, written, -⟩ := scanCodeEscape_codeEscape c (List.cons_ne_nil '"' [])
        have := congrArg List.length written
        simp only [List.length_append, List.length_cons, List.length_nil] at this
        rw [escaped]
        omega
    rw [List.flatMap_cons, List.length_append, List.length_cons]
    omega

theorem toList_jsonText (text : String) :
    (jsonText style text).toList =
      '"' :: (text.toList.flatMap (escapeJson style.escapes) ++ ['"']) := by
  simp [jsonText]

/-- Texts read back. -/
theorem scanText_escapeJson (escapes : Bool) (text : String) :
    scanText (text.toList.flatMap (escapeJson escapes) ++ '"' :: rest) = .ok (text, rest) := by
  have shorter := length_le_length_flatMap_escapeJson escapes text.toList
  have enough : text.toList.length <
      (text.toList.flatMap (escapeJson escapes) ++ '"' :: rest).length + 1 := by
    rw [List.length_append]
    omega
  unfold scanText
  rw [scanTextWithin_flatMap escapes text.toList enough]
  simp [bind, Except.bind]

/-! ### Ends of lines -/

/-- No escape holds a carriage return. -/
theorem carriage_notMem_escapeJson (escapes : Bool) (c : Char) : '\r' ∉ escapeJson escapes c := by
  have unit (n : Nat) : '\r' ∉ unitEscape n := by
    intro member
    rcases List.mem_cons.mp member with absurd | member
    · cases absurd
    · rcases List.mem_cons.mp member with absurd | member
      · cases absurd
      · have digit : isDigitOf 16 '\r' :=
          isDigitOf_of_mem_paddedNumeral (by decide) (by decide) member
        revert digit
        decide
  rcases escapeJson_cases escapes c with
    ⟨plain, -, -, control⟩ | ⟨letter, escaped, -, code⟩ | escaped
  · rw [plain, List.mem_singleton]
    rintro rfl
    exact control (by decide)
  · rw [escaped]
    simp only [List.mem_cons, List.not_mem_nil, or_false]
    rintro (absurd | rfl)
    · cases absurd
    · cases code
  · rw [escaped]
    unfold codeEscape
    dsimp only
    split
    · exact unit _
    · rw [List.mem_append]
      exact fun member => member.elim (unit _) (unit _)

theorem carriage_notMem_jsonText (text : String) : '\r' ∉ (jsonText style text).toList := by
  rw [toList_jsonText]
  simp only [List.mem_cons, List.mem_append, List.mem_flatMap, List.not_mem_nil, or_false]
  rintro (absurd | ⟨c, -, member⟩ | absurd)
  · cases absurd
  · exact carriage_notMem_escapeJson _ c member
  · cases absurd

/-! ### Blanks -/

/-- Whether a text is nothing but what stands between the parts of a document. -/
def IsBlank (text : List Char) : Prop :=
  ∀ c ∈ text, c = ' ' ∨ c = '\n'

theorem skipBlanks_append {blanks : List Char} (blank : IsBlank blanks) :
    skipBlanks (blanks ++ rest) = skipBlanks rest := by
  refine List.dropWhile_append_of_pos fun c member => ?_
  rcases blank c member with rfl | rfl <;> rfl

/-! ### Mappings -/

/-- Pairs with texts as keys. -/
def pairsOf (entries : List (String × Value)) : List (Value × Value) :=
  entries.map fun (key, value) => (.text key, value)

theorem sameKey_text (key other : String) :
    (Value.text key).sameKey (.text other) = decide (key = other) := rfl

/-- A new key goes to the end. -/
theorem insertPair_of_fresh {pairs : List (Value × Value)} {key value : Value}
    (fresh : ∀ pair ∈ pairs, pair.1.sameKey key = false) :
    insertPair pairs key value = pairs ++ [(key, value)] := by
  induction pairs with
  | nil => rfl
  | cons first pairs ih =>
    obtain ⟨here, further⟩ := List.forall_mem_cons.mp fresh
    rw [insertPair, if_neg (by simp [here]), ih further, List.cons_append]

/-- What no written value opens with: what is skipped between the parts, and the mark of an
encoding. -/
def unopening : List Char :=
  [' ', '\t', '\n', '\r', '\ufeff']

/-- A written value opens with no blank, holds no carriage return, and is read again, whatever
follows it. -/
structure ReadsBack (style : JsonStyle) (depth : Nat) (value : Value) : Prop where
  unbroken : '\r' ∉ (writeJsonAt style depth value).toList
  opens : ∃ c tail, (writeJsonAt style depth value).toList = c :: tail ∧ c ∉ unopening
  reads : ∀ fuel rest, (writeJsonAt style depth value).toList.length < fuel →
    scanValue fuel ((writeJsonAt style depth value).toList ++ rest) = .ok (value, rest)

theorem ReadsBack.skipBlanks {depth : Nat} {value : Value} (back : ReadsBack style depth value)
    (rest : List Char) : skipBlanks ((writeJsonAt style depth value).toList ++ rest) =
      (writeJsonAt style depth value).toList ++ rest := by
  obtain ⟨c, tail, written, opening⟩ := back.opens
  rw [written, List.cons_append, Document.skipBlanks, List.dropWhile_cons_of_neg]
  intro skipped
  simp only [Bool.or_eq_true, decide_eq_true_eq] at skipped
  rcases skipped with ((rfl | rfl) | rfl) | rfl <;> exact opening (by decide)

theorem ReadsBack.text (depth : Nat) (text : String) : ReadsBack style depth (.text text) where
  unbroken := by
    rw [writeJsonAt]
    exact carriage_notMem_jsonText text
  opens := by
    rw [writeJsonAt, toList_jsonText]
    exact ⟨'"', _, rfl, by decide⟩
  reads fuel rest enough := by
    obtain ⟨fuel, rfl⟩ := Nat.exists_eq_add_one_of_ne_zero (Nat.ne_zero_of_lt enough)
    rw [writeJsonAt, toList_jsonText, List.cons_append, scanValue]
    simp only [List.append_assoc, List.singleton_append, scanText_escapeJson, bind, Except.bind]

theorem ReadsBack.truth (depth : Nat) (value : Bool) : ReadsBack style depth (.truth value) where
  unbroken := by
    cases value <;> rw [writeJsonAt] <;> decide
  opens := by
    cases value <;> rw [writeJsonAt]
    · exact ⟨'f', _, rfl, by decide⟩
    · exact ⟨'t', _, rfl, by decide⟩
  reads fuel rest enough := by
    obtain ⟨fuel, rfl⟩ := Nat.exists_eq_add_one_of_ne_zero (Nat.ne_zero_of_lt enough)
    cases value <;> simp [writeJsonAt, scanValue, scanScalar, namedValues] <;> rfl

/-- The text of a pair whose key is a text. -/
def pairText (style : JsonStyle) (depth : Nat) (entry : String × Value) : List Char :=
  (jsonText style entry.1).toList ++ ':' :: ' ' :: (writeJsonAt style depth entry.2).toList

/-- The first pair takes up a key, a colon with a blank, and a value; what follows decides how the
mapping goes on. -/
theorem scanPairs_pairText_append {depth : Nat} {entry : String × Value}
    (value : ReadsBack style depth entry.2) (room : (pairText style depth entry).length ≤ fuel)
    (pairs : List (Value × Value)) :
    scanPairs (fuel + 1) pairs (pairText style depth entry ++ rest) =
      match skipBlanks rest with
      | '\x7d' :: rest => .ok (.mapping (insertPair pairs (.text entry.1) entry.2), rest)
      | ',' :: rest => scanPairs fuel (insertPair pairs (.text entry.1) entry.2) (skipBlanks rest)
      | rest => complain .comma rest := by
  have enough : (writeJsonAt style depth entry.2).toList.length < fuel := by
    rw [pairText, toList_jsonText] at room
    simp only [List.length_append, List.length_cons, List.length_nil] at room
    omega
  have opened : skipBlanks (' ' :: ((writeJsonAt style depth entry.2).toList ++ rest)) =
      (writeJsonAt style depth entry.2).toList ++ rest := value.skipBlanks rest
  have colon (after : List Char) : skipBlanks (':' :: after) = ':' :: after := rfl
  rw [pairText, toList_jsonText]
  simp only [List.cons_append, List.append_assoc, List.nil_append]
  rw [scanPairs]
  simp only [scanText_escapeJson, bind, Except.bind, colon, opened]
  have read := value.reads fuel rest enough
  generalize scanValue fuel ((writeJsonAt style depth entry.2).toList ++ rest) = found at read ⊢
  subst read
  rfl

/-- Pairs open with the quote of the first key. -/
theorem exists_intercalate_eq_cons (style : JsonStyle) (depth : Nat) (separator : List Char)
    {entries : List (String × Value)} (present : entries ≠ []) :
    ∃ tail, separator.intercalate (entries.map (pairText style depth)) = '"' :: tail := by
  match entries with
  | [] => exact absurd rfl present
  | [entry] =>
    rw [List.map_singleton, List.intercalate_singleton, pairText, toList_jsonText]
    exact ⟨_, rfl⟩
  | first :: second :: others =>
    rw [List.map_cons, List.map_cons, List.intercalate_cons_cons, pairText, toList_jsonText]
    exact ⟨_, rfl⟩

theorem skipBlanks_intercalate_append (depth : Nat) (separator : List Char)
    {entries : List (String × Value)} (present : entries ≠ []) :
    skipBlanks (separator.intercalate (entries.map (pairText style depth)) ++ rest) =
      separator.intercalate (entries.map (pairText style depth)) ++ rest := by
  obtain ⟨tail, opened⟩ := exists_intercalate_eq_cons style depth separator present
  rw [opened]
  rfl

/-- Pairs are read one by one, with a comma between them and the closing brace behind the last. -/
theorem scanPairs_intercalate {depth : Nat} {blanks closing : List Char} (blank : IsBlank blanks)
    (closingBlank : IsBlank closing) {entries : List (String × Value)} (present : entries ≠ [])
    (values : ∀ entry ∈ entries, ReadsBack style depth entry.2)
    (nodup : (entries.map Prod.fst).Nodup) (pairs : List (Value × Value))
    (fresh : ∀ entry ∈ entries, ∀ pair ∈ pairs, pair.1.sameKey (.text entry.1) = false)
    (enough : ((',' :: blanks).intercalate (entries.map (pairText style depth))).length < fuel) :
    scanPairs fuel pairs ((',' :: blanks).intercalate (entries.map (pairText style depth)) ++
      (closing ++ '\x7d' :: rest)) = .ok (.mapping (pairs ++ pairsOf entries), rest) := by
  induction entries generalizing fuel pairs with
  | nil => exact absurd rfl present
  | cons first others ih =>
    obtain ⟨fuel, rfl⟩ := Nat.exists_eq_add_one_of_ne_zero (Nat.ne_zero_of_lt enough)
    obtain ⟨here, further⟩ := List.forall_mem_cons.mp fresh
    obtain ⟨value, behind⟩ := List.forall_mem_cons.mp values
    obtain ⟨single, nodup⟩ := List.nodup_cons.mp nodup
    cases others with
    | nil =>
      rw [List.map_singleton, List.intercalate_singleton] at enough ⊢
      rw [scanPairs_pairText_append value (by omega), skipBlanks_append closingBlank,
        insertPair_of_fresh here]
      rfl
    | cons second others =>
      rw [List.map_cons, List.map_cons, List.intercalate_cons_cons, ← List.map_cons] at enough ⊢
      simp only [List.length_append, List.length_cons] at enough
      rw [List.append_assoc, List.append_assoc, scanPairs_pairText_append value (by omega)]
      have comma (after : List Char) : skipBlanks (',' :: after) = ',' :: after := rfl
      simp only [List.cons_append, comma]
      rw [skipBlanks_append blank, insertPair_of_fresh here]
      -- The key just read is not among the keys behind it.
      have fresh : ∀ entry ∈ second :: others, ∀ pair ∈ pairs ++ [(Value.text first.1, first.2)],
          pair.1.sameKey (.text entry.1) = false := by
        intro entry member pair among
        rcases List.mem_append.mp among with before | last
        · exact further entry member pair before
        · obtain rfl := List.mem_singleton.mp last
          rw [sameKey_text, decide_eq_false_iff_not]
          exact fun same => single (same ▸ List.mem_map_of_mem member)
      rw [skipBlanks_intercalate_append depth _ (by simp), ih (by simp) behind nodup _ fresh
        (by omega), List.append_assoc]
      rfl

/-- The lines of items between brackets: the items with commas and blanks between them, behind
blanks and before blanks. -/
theorem toList_enclose (style : JsonStyle) (depth : Nat) (opening closing : String)
    {items : List String} (present : items ≠ []) :
    ∃ before between behind, IsBlank before ∧ IsBlank between ∧ IsBlank behind ∧
      (enclose style depth opening closing items).toList =
        opening.toList ++ before ++ (',' :: between).intercalate (items.map String.toList) ++
          behind ++ closing.toList := by
  have line (count : Nat) : IsBlank ('\n' :: List.replicate count ' ') :=
    List.forall_mem_cons.mpr ⟨.inr rfl, fun _ member => .inl (List.eq_of_mem_replicate member)⟩
  unfold enclose
  rw [if_neg (by simpa using present)]
  cases style.indentation with
  | none =>
    refine ⟨[], [' '], [], by simp [IsBlank], by simp [IsBlank], by simp [IsBlank], ?_⟩
    simp
  | some width =>
    refine ⟨_, _, _, line (width * (depth + 1)), line (width * (depth + 1)), line (width * depth),
      ?_⟩
    simp

theorem map_toList_writeJsonPairs (style : JsonStyle) (depth : Nat)
    (entries : List (String × Value)) :
    (writeJsonPairs style depth (pairsOf entries)).map String.toList =
      entries.map (pairText style depth) := by
  induction entries with
  | nil => rw [pairsOf, List.map_nil, writeJsonPairs, List.map_nil, List.map_nil]
  | cons entry entries ih =>
    rw [pairsOf, List.map_cons, writeJsonPairs, List.map_cons, List.map_cons, ← pairsOf, ih]
    simp [pairText, jsonKey]

theorem mem_of_mem_intercalate {separator : List Char} {parts : List (List Char)} {c : Char}
    (member : c ∈ separator.intercalate parts) : c ∈ separator ∨ ∃ part ∈ parts, c ∈ part := by
  induction parts with
  | nil => cases member
  | cons first parts ih =>
    cases parts with
    | nil =>
      rw [List.intercalate_singleton] at member
      exact .inr ⟨first, List.mem_cons_self, member⟩
    | cons second parts =>
      rw [List.intercalate_cons_cons, List.append_assoc, List.mem_append, List.mem_append] at member
      rcases member with here | between | further
      · exact .inr ⟨first, List.mem_cons_self, here⟩
      · exact .inl between
      · exact (ih further).imp id fun ⟨part, among, within⟩ =>
          ⟨part, List.mem_cons_of_mem first among, within⟩

theorem IsBlank.carriage_notMem {blanks : List Char} (blank : IsBlank blanks) : '\r' ∉ blanks := by
  intro member
  rcases blank _ member with absurd | absurd <;> cases absurd

theorem carriage_notMem_pairText {depth : Nat} {entry : String × Value}
    (value : ReadsBack style depth entry.2) : '\r' ∉ pairText style depth entry := by
  unfold pairText
  simp only [List.mem_append, List.mem_cons]
  rintro (member | absurd | absurd | member)
  · exact carriage_notMem_jsonText entry.1 member
  · cases absurd
  · cases absurd
  · exact value.unbroken member

/-- Mappings read back if their values do and no key occurs twice. -/
theorem ReadsBack.mapping {depth : Nat} {entries : List (String × Value)}
    (values : ∀ entry ∈ entries, ReadsBack style (depth + 1) entry.2)
    (nodup : (entries.map Prod.fst).Nodup) :
    ReadsBack style depth (.mapping (pairsOf entries)) := by
  rcases eq_or_ne entries [] with rfl | present
  · have written : (writeJsonAt style depth (.mapping (pairsOf []))).toList = ['\x7b', '\x7d'] := by
      rw [writeJsonAt, pairsOf, List.map_nil, writeJsonPairs, enclose]
      simp
    refine ⟨by rw [written]; decide, ⟨_, _, written, by decide⟩, fun fuel rest enough => ?_⟩
    obtain ⟨fuel, rfl⟩ := Nat.exists_eq_add_one_of_ne_zero (Nat.ne_zero_of_lt enough)
    rw [written, List.cons_append, scanValue]
    rfl
  · have items : writeJsonPairs style (depth + 1) (pairsOf entries) ≠ [] := by
      intro none
      have same := map_toList_writeJsonPairs style (depth + 1) entries
      rw [none, List.map_nil, List.nil_eq, List.map_eq_nil_iff] at same
      exact present same
    obtain ⟨before, between, behind, blankBefore, blankBetween, blankBehind, written⟩ :=
      toList_enclose style depth "\x7b" "\x7d" items
    rw [map_toList_writeJsonPairs] at written
    have written : (writeJsonAt style depth (.mapping (pairsOf entries))).toList =
        '\x7b' :: (before ++ ((',' :: between).intercalate
          (entries.map (pairText style (depth + 1))) ++ (behind ++ ['\x7d']))) := by
      rw [writeJsonAt, written]
      simp
    have unbroken : '\r' ∉ (writeJsonAt style depth (.mapping (pairsOf entries))).toList := by
      rw [written]
      simp only [List.mem_cons, List.mem_append, List.not_mem_nil, or_false]
      rintro (absurd | member | member | member | absurd)
      · cases absurd
      · exact blankBefore.carriage_notMem member
      · rcases mem_of_mem_intercalate member with separator | ⟨part, among, within⟩
        · exact (List.mem_cons.mp separator).elim (by decide) blankBetween.carriage_notMem
        · obtain ⟨entry, entered, rfl⟩ := List.mem_map.mp among
          exact carriage_notMem_pairText (values entry entered) within
      · exact blankBehind.carriage_notMem member
      · cases absurd
    refine ⟨unbroken, ⟨_, _, written, by decide⟩, fun fuel rest enough => ?_⟩
    obtain ⟨fuel, rfl⟩ := Nat.exists_eq_add_one_of_ne_zero (Nat.ne_zero_of_lt enough)
    rw [written] at enough ⊢
    simp only [List.length_cons, List.length_append] at enough
    rw [List.cons_append, scanValue]
    simp only [List.append_assoc]
    rw [skipBlanks_append blankBefore, skipBlanks_intercalate_append _ _ present]
    have read : scanPairs fuel [] (_ ++ (behind ++ '\x7d' :: rest)) = .ok (_, rest) :=
      scanPairs_intercalate blankBetween blankBehind present values nodup [] (by simp) (by omega)
    obtain ⟨tail, opened⟩ := exists_intercalate_eq_cons style (depth + 1) (',' :: between) present
    rw [List.nil_append, opened, List.cons_append] at read
    rw [opened, List.cons_append]
    exact read

/-- A document that reads back is read whole, with blanks around it. -/
theorem readJson_writeJson {value : Value} (back : ReadsBack style 0 value) {blanks : String}
    (blank : IsBlank blanks.toList) : readJson (writeJson style value ++ blanks) = .ok value := by
  obtain ⟨c, tail, written, opening⟩ := back.opens
  have marked : (writeJsonAt style 0 value ++ blanks).toList.head? ≠ some '\ufeff' := by
    rw [String.toList_append, written]
    intro same
    exact opening (by rw [Option.some.inj same]; decide)
  unfold readJson writeJson
  rw [if_neg marked, String.toList_append, back.skipBlanks]
  simp only [bind, Except.bind]
  rw [back.reads _ _ (by rw [List.length_append]; omega)]
  have skipped : skipBlanks (blanks.toList ++ []) = [] := skipBlanks_append blank
  rw [List.append_nil] at skipped
  simp only [skipped]

end EntryPoint.Document
