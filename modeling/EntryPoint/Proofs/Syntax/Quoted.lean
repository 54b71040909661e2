/-
# Quoted literals read back

Between its quotes a text stands character by character, each by itself or through
an escape. The quote that closes the literal is the first one that no backslash
protects, and the escapes stand for the characters that they were made from, so a
quoted literal holds its text whatever that text is.

## Main definitions

* `StaysOpen` - characters that a scan of a literal runs over.

## Main results

* `scanQuoted_quoteChars` - a quoted literal ends with its own quote.
* `decodeText_escaped` - what stands between the quotes decodes to the text.
-/

import EntryPoint.Proofs.Text.Digits
import EntryPoint.Syntax.Literal.Escape
import EntryPoint.Syntax.Token.Lexeme
import EntryPoint.Text.Quoted
import Mathlib.Data.List.Basic
import Mathlib.Tactic.SplitIfs

namespace EntryPoint.Syntax

open Text

variable {mark c : Char} {text body more rest : List Char}

/-! ### The forms of escapes -/

/-- What the escape of a character is: a letter, or its code point in digits of a fixed number. -/
theorem escapeCode_cases (c : Char) :
    (∃ letter code, escapeCode c = ['\\', letter] ∧ letterEscapes.lookup letter = some code ∧
      Char.ofNat code = c ∧ isPrintable letter) ∨
    ∃ letter width, escapeCode c = '\\' :: letter :: paddedNumeral 16 width c.toNat ∧
      c.toNat < 16 ^ width ∧ ((letter = 'x' ∧ width = 2) ∨ (letter = 'u' ∧ width = 4) ∨
        (letter = 'U' ∧ width = 8)) := by
  have valid : c.toNat.isValidChar := c.valid
  have bounded : c.toNat < 0x110000 := by
    rcases valid with low | ⟨-, high⟩ <;> omega
  unfold escapeCode
  -- The cases of the printer: a letter for a few characters, else as many digits as the code takes.
  split_ifs with tab feed carriage backslash byte plane
  · exact .inl ⟨'t', 9, rfl, by decide, tab.symm, rfl⟩
  · exact .inl ⟨'n', 10, rfl, by decide, feed.symm, rfl⟩
  · exact .inl ⟨'r', 13, rfl, by decide, carriage.symm, rfl⟩
  · exact .inl ⟨'\\', 92, rfl, by decide, backslash.symm, rfl⟩
  · exact .inr ⟨'x', 2, rfl, byte, .inl ⟨rfl, rfl⟩⟩
  · exact .inr ⟨'u', 4, rfl, plane, .inr (.inl ⟨rfl, rfl⟩)⟩
  · exact .inr ⟨'U', 8, rfl, bounded.trans_le (by decide), .inr (.inr ⟨rfl, rfl⟩)⟩

/-- What stands for a character between quotes: the character behind a backslash if it is the
quote, its escape, or the character itself. -/
theorem escapeWithin_cases (mark c : Char) :
    (escapeWithin mark c = ['\\', c] ∧ c = mark) ∨ escapeWithin mark c = escapeCode c ∨
      (escapeWithin mark c = [c] ∧ c ≠ mark ∧ c ≠ '\\' ∧ isPrintable c = true) := by
  unfold escapeWithin
  split_ifs with quote special
  · exact .inl ⟨rfl, quote⟩
  · exact .inr (.inl rfl)
  · simp only [Bool.or_eq_true, decide_eq_true_eq, Bool.not_eq_eq_eq_not, Bool.not_true,
      not_or, Bool.not_eq_false] at special
    exact .inr (.inr ⟨rfl, quote, special.1, special.2⟩)

theorem quoteMark_cases (text : List Char) : quoteMark text = '"' ∨ quoteMark text = '\'' := by
  unfold quoteMark
  split_ifs <;> simp

/-! ### Printable characters -/

theorem isPrintable_of_isDigitOf (digit : isDigitOf 16 c) : isPrintable c := by
  have bounded : 48 ≤ c.toNat ∧ c.toNat ≤ 102 := by
    have codes : '0'.val.toNat = 48 ∧ '9'.val.toNat = 57 ∧ 'a'.val.toNat = 97 ∧
        'f'.val.toNat = 102 ∧ 'A'.val.toNat = 65 ∧ 'F'.val.toNat = 70 :=
      ⟨rfl, rfl, rfl, rfl, rfl, rfl⟩
    unfold isDigitOf digitValue? at digit
    simp only [Char.le_def, UInt32.le_iff_toNat_le] at digit
    simp only [Char.toNat]
    split_ifs at digit <;> omega
  have ascii : isAscii c = true := decide_eq_true (by omega)
  rw [isPrintable, if_pos ascii, Bool.and_eq_true, decide_eq_true_eq, decide_eq_true_eq]
  omega

theorem isPrintable_of_mem_escapeCode {d : Char} (member : d ∈ escapeCode c) : isPrintable d := by
  rcases escapeCode_cases c with ⟨letter, -, same, -, -, plain⟩ | ⟨letter, width, same, -, known⟩
  · rw [same, List.mem_cons, List.mem_singleton] at member
    rcases member with rfl | rfl
    · rfl
    · exact plain
  · rw [same, List.mem_cons, List.mem_cons] at member
    rcases member with rfl | rfl | member
    · rfl
    · rcases known with ⟨rfl, -⟩ | ⟨rfl, -⟩ | ⟨rfl, -⟩ <;> rfl
    · exact isPrintable_of_isDigitOf
        (isDigitOf_of_mem_paddedNumeral (by decide) (by decide) member)

/-- A quoted literal shows printable characters only. -/
theorem isPrintable_of_mem_quoteChars (member : c ∈ quoteChars text) : isPrintable c := by
  have mark : isPrintable (quoteMark text) := by
    rcases quoteMark_cases text with same | same <;> rw [same] <;> rfl
  simp only [quoteChars, List.cons_append, List.mem_cons, List.mem_append, List.mem_flatMap,
    List.not_mem_nil, or_false] at member
  rcases member with rfl | ⟨shown, -, member⟩ | rfl
  · exact mark
  · rcases escapeWithin_cases (quoteMark text) shown with ⟨same, rfl⟩ | same | ⟨same, -, -, plain⟩
    · rw [same, List.mem_cons, List.mem_singleton] at member
      rcases member with rfl | rfl
      · rfl
      · exact mark
    · rw [same] at member
      exact isPrintable_of_mem_escapeCode member
    · rw [same, List.mem_singleton] at member
      rw [member]
      exact plain
  · exact mark

/-! ### Scanning -/

/-- Characters that a scan of a literal runs over without reaching its end. -/
def StaysOpen (mark : Char) (body : List Char) : Prop :=
  ∀ rest, scanShortBody mark (body ++ rest) =
    (scanShortBody mark rest).map fun (more, rest) => (body ++ more, rest)

theorem StaysOpen.nil : StaysOpen mark [] := by
  intro rest
  simp

theorem StaysOpen.append (first : StaysOpen mark body) (second : StaysOpen mark more) :
    StaysOpen mark (body ++ more) := by
  intro rest
  rw [List.append_assoc, first, second, Option.map_map]
  simp [Function.comp_def]

theorem StaysOpen.ordinary (other : c ≠ mark) (plain : c ≠ '\\') (line : c ≠ '\n') :
    StaysOpen mark [c] := by
  intro rest
  simp only [List.cons_append, List.nil_append]
  rw [scanShortBody.eq_def]
  split
  · rename_i same
    cases same
  · rename_i same
    cases same
    exact absurd rfl plain
  · rename_i same
    cases same
    rw [if_neg other, if_neg line]

theorem StaysOpen.protected (c : Char) : StaysOpen mark ['\\', c] := by
  intro rest
  rfl

theorem StaysOpen.digits {digits : List Char} (markIs : mark = '"' ∨ mark = '\'')
    (hex : ∀ d ∈ digits, isDigitOf 16 d) : StaysOpen mark digits := by
  induction digits with
  | nil => exact .nil
  | cons first rest ih =>
    have digit : isDigitOf 16 first := hex first (.head _)
    refine StaysOpen.append (.ordinary ?_ ?_ ?_) (ih fun d member => hex d (.tail _ member))
    · rintro rfl
      rcases markIs with rfl | rfl <;> exact absurd digit (by decide)
    · rintro rfl
      exact absurd digit (by decide)
    · rintro rfl
      exact absurd digit (by decide)

theorem StaysOpen.escapeCode (markIs : mark = '"' ∨ mark = '\'') (c : Char) :
    StaysOpen mark (escapeCode c) := by
  rcases escapeCode_cases c with ⟨letter, -, same, -⟩ | ⟨letter, width, same, -, -⟩
  · rw [same]
    exact .protected letter
  · rw [same]
    exact .append (.protected letter)
      (.digits markIs fun _ => isDigitOf_of_mem_paddedNumeral (by decide) (by decide))

theorem StaysOpen.escapeWithin (markIs : mark = '"' ∨ mark = '\'') (c : Char) :
    StaysOpen mark (escapeWithin mark c) := by
  rcases escapeWithin_cases mark c with ⟨same, -⟩ | same | ⟨same, other, plain, printable⟩
  · rw [same]
    exact .protected c
  · rw [same]
    exact .escapeCode markIs c
  · rw [same]
    refine .ordinary other plain ?_
    rintro rfl
    exact absurd printable (by decide)

theorem StaysOpen.flatMap (markIs : mark = '"' ∨ mark = '\'') (text : List Char) :
    StaysOpen mark (text.flatMap (EntryPoint.Text.escapeWithin mark)) := by
  induction text with
  | nil => exact .nil
  | cons first rest ih => exact .append (.escapeWithin markIs first) ih

/-- A scan ends at the first quote that is not protected. -/
theorem StaysOpen.scan (opened : StaysOpen mark body) (plain : mark ≠ '\\') :
    scanShortBody mark (body ++ mark :: rest) = some (body, rest) := by
  have closes : scanShortBody mark (mark :: rest) = some ([], rest) := by
    rw [scanShortBody.eq_def]
    split
    · rename_i same
      cases same
    · rename_i same
      cases same
      exact absurd rfl plain
    · rename_i same
      cases same
      exact if_pos rfl
  rw [opened, closes]
  simp

theorem ne_mark_of_mem_head_escapeWithin (markIs : mark = '"' ∨ mark = '\'') {first : Char}
    {others : List Char} (same : escapeWithin mark c = first :: others) : first ≠ mark := by
  have plain : '\\' ≠ mark := by rcases markIs with rfl | rfl <;> decide
  rcases escapeWithin_cases mark c with ⟨form, -⟩ | form | ⟨form, other, -⟩
  · obtain ⟨rfl, -⟩ := List.cons.inj (same.symm.trans form)
    exact plain
  · rcases escapeCode_cases c with ⟨_, -, code, -⟩ | ⟨_, _, code, -⟩ <;>
    · obtain ⟨rfl, -⟩ := List.cons.inj (same.symm.trans (form.trans code))
      exact plain
  · obtain ⟨rfl, -⟩ := List.cons.inj (same.symm.trans form)
    exact other

/-- A quoted literal ends with its own quote, where no further quote follows. -/
theorem scanQuoted_quoteChars (text : List Char) (apart : rest.head? ≠ some (quoteMark text)) :
    scanQuoted (quoteChars text ++ rest) =
      some (text.flatMap (escapeWithin (quoteMark text)), rest) := by
  have markIs := quoteMark_cases text
  generalize markEq : quoteMark text = mark at markIs apart ⊢
  have plain : mark ≠ '\\' := by rcases markIs with rfl | rfl <;> decide
  -- Three quotes would open another kind of literal: the body is empty, or opens with no quote.
  have short : ¬[mark, mark].isPrefixOf (text.flatMap (escapeWithin mark) ++ mark :: rest) := by
    cases text with
    | nil =>
      cases rest with
      | nil => simp [List.isPrefixOf]
      | cons next others =>
        have different : mark ≠ next := fun same => apart (by rw [same]; rfl)
        simp [List.isPrefixOf, different]
    | cons first others =>
      cases form : escapeWithin mark first with
      | nil =>
        rcases escapeWithin_cases mark first with ⟨same, -⟩ | same | ⟨same, -⟩
        · rw [form] at same; cases same
        · rcases escapeCode_cases first with ⟨_, _, code, -⟩ | ⟨_, _, code, -⟩ <;>
          · rw [form, code] at same; cases same
        · rw [form] at same; cases same
      | cons opening body =>
        have different := ne_mark_of_mem_head_escapeWithin markIs form
        simp [List.flatMap_cons, form, List.isPrefixOf, different.symm]
  unfold quoteChars
  rw [markEq]
  simp only [List.cons_append, List.append_assoc, List.nil_append, scanQuoted]
  rw [if_neg short]
  exact (StaysOpen.flatMap markIs text).scan plain

/-! ### Decoding -/

theorem decodeFrom_length_append {escape : List Char → Option Escape} (taken rest : List Char) :
    decodeFrom escape taken.length (taken ++ rest) = decodeFrom escape 0 rest := by
  induction taken with
  | nil => rfl
  | cons first others ih => exact ih

/-- An escape that takes up all that is given of it decodes to the character it stands for. -/
theorem decodeFrom_escape {escape : List Char → Option Escape} (taken : List Char)
    (read : escape (taken ++ rest) = some ([c], taken.length)) :
    decodeFrom escape 0 ('\\' :: taken ++ rest) = (decodeFrom escape 0 rest).map (c :: ·) := by
  rw [List.cons_append, decodeFrom, if_pos rfl, read]
  simp only [Option.bind_eq_bind, Option.bind_some, decodeFrom_length_append]
  cases decodeFrom escape 0 rest <;> rfl

theorem fixedHex?_paddedNumeral {width n : Nat} (positive : 0 < width) (fits : n < 16 ^ width) :
    fixedHex? width (paddedNumeral 16 width n ++ rest) = some n := by
  have length : (paddedNumeral 16 width n).length = width :=
    length_paddedNumeral (by decide) positive fits
  have digits : (paddedNumeral 16 width n).all (isDigitOf 16) :=
    List.all_eq_true.mpr fun _ => isDigitOf_of_mem_paddedNumeral (by decide) (by decide)
  unfold fixedHex?
  rw [List.take_left' length]
  simp [length, digits, ofDigits_paddedNumeral (show 1 < 16 by decide) (show 16 ≤ 16 by decide)]

theorem characterOf?_toNat (c : Char) : characterOf? c.toNat = some c := by
  rw [characterOf?, if_pos (show c.toNat.isValidChar from c.valid), Char.ofNat_toNat]

theorem sharedEscape?_letter {ofCode : Nat → List Char} {letter : Char} {code : Nat}
    (line : letter ≠ '\n') (known : letterEscapes.lookup letter = some code) :
    sharedEscape? ofCode (letter :: rest) = some (some (ofCode code, 1)) := by
  unfold sharedEscape?
  split
  · rename_i same
    cases same
  · rename_i same
    cases same
    exact absurd rfl line
  · rename_i same
    cases same
    rw [known]

theorem textEscape_letter {letter : Char} {code : Nat} (line : letter ≠ '\n')
    (known : letterEscapes.lookup letter = some code) :
    textEscape (letter :: rest) = some ([Char.ofNat code], 1) := by
  rw [textEscape, sharedEscape?_letter line known]

/-- The code point of a character decodes to the character. -/
theorem textEscape_codePoint {letter : Char} {width : Nat} (fits : c.toNat < 16 ^ width)
    (known : (letter = 'x' ∧ width = 2) ∨ (letter = 'u' ∧ width = 4) ∨
      (letter = 'U' ∧ width = 8)) :
    textEscape (letter :: paddedNumeral 16 width c.toNat ++ rest) = some ([c], width + 1) := by
  have hex (positive : 0 < width) :
      fixedHex? width (paddedNumeral 16 width c.toNat ++ rest) = some c.toNat :=
    fixedHex?_paddedNumeral positive fits
  -- None of the three letters is an escape of its own, and none of them is an octal digit.
  rcases known with ⟨rfl, rfl⟩ | ⟨rfl, rfl⟩ | ⟨rfl, rfl⟩
  · have lookup : letterEscapes.lookup 'x' = none := by decide
    simp [textEscape, sharedEscape?, lookup, show isDigitOf 8 'x' = false by decide,
      hex (by decide), Char.ofNat_toNat]
  · have lookup : letterEscapes.lookup 'u' = none := by decide
    simp [textEscape, sharedEscape?, lookup, show isDigitOf 8 'u' = false by decide,
      codePointEscape?, hex (by decide), characterOf?_toNat]
  · have lookup : letterEscapes.lookup 'U' = none := by decide
    simp [textEscape, sharedEscape?, lookup, show isDigitOf 8 'U' = false by decide,
      codePointEscape?, hex (by decide), characterOf?_toNat]

/-- The escape of a character decodes to the character. -/
theorem decodeFrom_escapeCode (c : Char) :
    decodeFrom textEscape 0 (escapeCode c ++ rest) =
      (decodeFrom textEscape 0 rest).map (c :: ·) := by
  rcases escapeCode_cases c with ⟨letter, code, same, known, rfl, -⟩ |
    ⟨letter, width, same, fits, known⟩
  · have line : letter ≠ '\n' := by
      rintro rfl
      cases (show letterEscapes.lookup '\n' = none by decide).symm.trans known
    rw [same]
    exact decodeFrom_escape [letter] (textEscape_letter line known)
  · have length : (paddedNumeral 16 width c.toNat).length = width :=
      length_paddedNumeral (by decide) (by omega) fits
    rw [same]
    refine decodeFrom_escape _ ?_
    rw [textEscape_codePoint fits known, List.length_cons, length]

/-- What stands for a character between quotes decodes to the character. -/
theorem decodeFrom_escapeWithin (markIs : mark = '"' ∨ mark = '\'') (c : Char) :
    decodeFrom textEscape 0 (escapeWithin mark c ++ rest) =
      (decodeFrom textEscape 0 rest).map (c :: ·) := by
  rcases escapeWithin_cases mark c with ⟨same, rfl⟩ | same | ⟨same, -, plain, -⟩
  · have known : ∃ code, letterEscapes.lookup c = some code ∧ Char.ofNat code = c ∧ c ≠ '\n' := by
      rcases markIs with rfl | rfl
      · exact ⟨34, by decide, by decide, by decide⟩
      · exact ⟨39, by decide, by decide, by decide⟩
    obtain ⟨code, known, char, line⟩ := known
    rw [same]
    refine decodeFrom_escape [c] ?_
    rw [List.singleton_append, textEscape_letter line known, char]
    rfl
  · rw [same]
    exact decodeFrom_escapeCode c
  · rw [same, List.cons_append, List.nil_append, decodeFrom, if_neg plain]

/-- What stands between the quotes of a literal decodes to its text. -/
theorem decodeText_escaped (text : List Char) :
    decodeText false (text.flatMap (escapeWithin (quoteMark text))) = some text := by
  have decoded (remaining : List Char) :
      decodeFrom textEscape 0 (remaining.flatMap (escapeWithin (quoteMark text))) =
        some remaining := by
    induction remaining with
    | nil => rfl
    | cons first others ih =>
      rw [List.flatMap_cons, decodeFrom_escapeWithin (quoteMark_cases text), ih, Option.map_some]
  exact decoded text

end EntryPoint.Syntax
