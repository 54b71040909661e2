/-
# Integers that are too long

The reader of JSON complains about what it misses, and about nothing else but integers
of too many digits. Each part of the reader goes on behind what it has read, so that
such an integer stands in the text as a run of that many digits.

## Main definitions

* `HoldsDigits` - a text has a run of digits that is too long for an integer.
* `FoundIn` - what the reader finds fault with.
* `Cuts` - a part of the reader goes on further behind in the text.

## Main results

* `Cuts.bind` - parts of the reader in sequence.
* `holdsDigits_of_readJson` - a text with an integer that is too long has a run of its digits.
-/

import EntryPoint.Document.Json.Reader
import EntryPoint.Proofs.Outcome
import Mathlib.Data.List.Basic
import Mathlib.Data.List.Infix

namespace EntryPoint.Document

open Text Decimal

variable {α β : Type} {n fuel start : Nat} {text rest : List Char}

/-- A text has a run of so many digits, more than an integer may have. -/
def HoldsDigits (n : Nat) (text : List Char) : Prop :=
  maxIntegerDigits < n ∧ ∃ digits, digits <:+: text ∧ digits.length = n ∧
    ∀ c ∈ digits, c.isDigit

/-- Digits at the end of a text are digits of the text. -/
theorem HoldsDigits.mono (holds : HoldsDigits n rest) (suffix : rest <:+ text) :
    HoldsDigits n text := by
  obtain ⟨long, digits, inside, count, all⟩ := holds
  exact ⟨long, digits, inside.trans suffix.isInfix, count, all⟩

/-- Of a text, the reader finds faults with what it misses there, and with a run of digits that is
too long. -/
def FoundIn (text : List Char) : Mistake → Prop
  | .longInteger n => HoldsDigits n text
  | .complaint _ _ => True

/-- A part of the reader goes on further behind in a text, or stops at what it misses there or at a
run of digits that is too long. -/
def Cuts (text : List Char) (result : Except Mistake (α × List Char)) : Prop :=
  Upholds (fun scanned => scanned.2 <:+ text) (FoundIn text) result

namespace Cuts

theorem ok (value : α) (rest : List Char) : Cuts rest (.ok (value, rest)) :=
  List.suffix_rfl

theorem mono {result : Except Mistake (α × List Char)} (cuts : Cuts rest result)
    (suffix : rest <:+ text) : Cuts text result := by
  refine Upholds.mono cuts (fun _ behind => behind.trans suffix) fun mistake found => ?_
  cases mistake with
  | complaint missed remaining => trivial
  | longInteger n => exact HoldsDigits.mono found suffix

/-- The second reader starts behind the first, so that its digits stand in the text as well. -/
theorem bind {first : Except Mistake (α × List Char)}
    {second : α × List Char → Except Mistake (β × List Char)} (here : Cuts text first)
    (further : ∀ value rest, Cuts rest (second (value, rest))) : Cuts text (first >>= second) :=
  Upholds.bind here fun (value, rest) behind => (further value rest).mono behind

end Cuts

theorem skipBlanks_suffix (text : List Char) : skipBlanks text <:+ text :=
  List.dropWhile_suffix _

/-! ### Texts -/

theorem cuts_scanCodeEscape (text : List Char) : Cuts text (scanCodeEscape text) := by
  have unit : Cuts text (scanUnit text) := by
    unfold scanUnit
    split
    · trivial
    · split
      · exact List.drop_suffix _ _
      · trivial
  unfold scanCodeEscape
  refine unit.bind fun unit rest => ?_
  dsimp only
  -- A second unit is read only behind a first one of a pair; either way a tail of the text is left.
  split
  · split
    · rename_i digits _
      have behind : digits <:+ '\\' :: 'u' :: digits :=
        (List.suffix_cons _ _).trans (List.suffix_cons _ _)
      split
      · trivial
      · split
        · exact (List.drop_suffix _ _).trans behind
        · exact List.suffix_rfl
    · exact List.suffix_rfl
  · exact List.suffix_rfl

/-- A text between quotes is read up to its closing quote. -/
theorem cuts_scanTextWithin (start fuel : Nat) (text : List Char) :
    Cuts text (scanTextWithin start fuel text) := by
  induction fuel generalizing text with
  | zero => trivial
  | succ fuel ih =>
    have further (c : Char) (text : List Char) : Cuts text (do
        let scanned ← scanTextWithin start fuel text
        .ok (c :: scanned.1, scanned.2)) :=
      (ih text).bind fun _ _ => .ok _ _
    cases text with
    | nil => trivial
    | cons c rest =>
      have behind : rest <:+ c :: rest := List.suffix_cons c rest
      rw [scanTextWithin.eq_def]
      dsimp only
      -- A quote ends the text; an escape or any other character is followed by the rest of it.
      split_ifs
      · exact behind
      · split
        · trivial
        · exact ((cuts_scanCodeEscape _).bind fun c rest => further c rest).mono
            ((List.suffix_cons _ _).trans behind)
        · split
          · trivial
          · exact (further _ _).mono ((List.suffix_cons _ _).trans behind)
      · trivial
      · exact (further c rest).mono behind

theorem cuts_scanText (text : List Char) : Cuts text (scanText text) :=
  (cuts_scanTextWithin _ _ text).bind fun _ _ => .ok _ _

/-! ### Numbers -/

theorem scanPlaces_suffix (text : List Char) : (scanPlaces text).2 <:+ text := by
  unfold scanPlaces
  split
  · rename_i c rest
    split
    · exact (List.dropWhile_suffix _).trans
        ((List.suffix_cons c rest).trans (List.suffix_cons '.' _))
    · exact List.suffix_rfl
  · exact List.suffix_rfl

theorem scanPower_suffix (text : List Char) : (scanPower text).2 <:+ text := by
  unfold scanPower
  split
  · rename_i mark rest
    have behind : rest <:+ mark :: rest := List.suffix_cons mark rest
    split_ifs
    · dsimp only
      split
      · exact List.suffix_rfl
      · refine (List.dropWhile_suffix _).trans (List.IsSuffix.trans ?_ behind)
        split
        · exact List.drop_suffix _ _
        · exact List.suffix_rfl
    · exact List.suffix_rfl
  · exact List.suffix_rfl

/-- The integer digits stand at the front of a text. -/
theorem scanWhole_eq_some {whole : List Char} (scanned : scanWhole text = some (whole, rest)) :
    text = whole ++ rest ∧ ∀ c ∈ whole, c.isDigit := by
  unfold scanWhole at scanned
  split at scanned
  · cases scanned
    exact ⟨rfl, by simp⟩
  · rename_i c rest _
    split at scanned
    · rename_i digit
      cases scanned
      refine ⟨congrArg (c :: ·) (List.takeWhile_append_dropWhile ..).symm, ?_⟩
      exact List.forall_mem_cons.mpr ⟨digit, List.all_eq_true.mp List.all_takeWhile⟩
    · cases scanned
  · cases scanned

/-- A number has too many digits only where they stand in the text. -/
theorem cuts_scanNumber (text : List Char) : Cuts text (scanNumber text) := by
  unfold scanNumber
  dsimp only
  have behind : (if text.head? = some '-' then text.drop 1 else text) <:+ text := by
    split
    · exact List.drop_suffix _ _
    · exact List.suffix_rfl
  split
  · trivial
  · rename_i whole rest scanned
    obtain ⟨same, digits⟩ := scanWhole_eq_some scanned
    -- The digits that were cut off are those of the text, so a flaw for their number is grounded.
    have behind : whole ++ rest <:+ text := by simpa only [← same, decide_eq_true_eq] using behind
    have further : (scanPower (scanPlaces rest).2).2 <:+ text :=
      (scanPower_suffix _).trans ((scanPlaces_suffix _).trans
        ((List.suffix_append whole rest).trans behind))
    split
    · split
      · rename_i long
        refine HoldsDigits.mono ⟨long, whole, ?_, rfl, digits⟩ behind
        exact (List.prefix_append whole rest).isInfix
      · exact further
    · exact further

theorem cuts_scanScalar (text : List Char) : Cuts text (scanScalar text) := by
  unfold scanScalar
  split
  · exact List.drop_suffix _ _
  · exact cuts_scanNumber text

/-! ### Values -/

/-- Whatever is read with so much fuel goes on further behind. -/
structure ScansBehind (fuel : Nat) : Prop where
  value : ∀ text, Cuts text (scanValue fuel text)
  elements : ∀ text, Cuts text (scanElements fuel text)
  pairs : ∀ pairs text, Cuts text (scanPairs fuel pairs text)

namespace ScansBehind

/-- A value is a scalar, a list or a mapping. -/
theorem of_scanValue (less : ScansBehind fuel) (text : List Char) :
    Cuts text (scanValue (fuel + 1) text) := by
  unfold scanValue
  -- A text, a list or a mapping opens with its mark; anything else is a scalar.
  split
  · rename_i rest
    refine Cuts.mono ?_ (List.suffix_cons _ rest)
    exact (cuts_scanText rest).bind fun _ _ => .ok _ _
  · rename_i rest
    have behind : skipBlanks rest <:+ '[' :: rest :=
      (skipBlanks_suffix rest).trans (List.suffix_cons _ _)
    split
    · rename_i closed
      exact (List.suffix_cons _ _).trans (closed ▸ behind)
    · refine Cuts.mono ?_ behind
      exact (less.elements _).bind fun _ _ => .ok _ _
  · rename_i rest
    have behind : skipBlanks rest <:+ '\x7b' :: rest :=
      (skipBlanks_suffix rest).trans (List.suffix_cons _ _)
    split
    · rename_i closed
      exact (List.suffix_cons _ _).trans (closed ▸ behind)
    · exact (less.pairs [] _).mono behind
  · exact cuts_scanScalar _

theorem of_scanElements (less : ScansBehind fuel) (text : List Char) :
    Cuts text (scanElements (fuel + 1) text) := by
  unfold scanElements
  refine (less.value text).bind fun value rest => ?_
  dsimp only
  have behind := skipBlanks_suffix rest
  split
  · rename_i closed
    exact (List.suffix_cons _ _).trans (closed ▸ behind)
  · rename_i next separated
    have further : skipBlanks next <:+ rest :=
      (skipBlanks_suffix next).trans ((List.suffix_cons _ _).trans (separated ▸ behind))
    refine Cuts.mono ?_ further
    exact (less.elements _).bind fun _ _ => .ok _ _
  · trivial

theorem of_scanPairs (less : ScansBehind fuel) (pairs : List (Value × Value))
    (text : List Char) : Cuts text (scanPairs (fuel + 1) pairs text) := by
  unfold scanPairs
  split
  · rename_i rest
    refine Cuts.mono ((cuts_scanText rest).bind fun key rest => ?_) (List.suffix_cons _ _)
    dsimp only
    split
    · rename_i next separated
      have behind : skipBlanks next <:+ rest :=
        (skipBlanks_suffix next).trans
          ((List.suffix_cons _ _).trans (separated ▸ skipBlanks_suffix rest))
      refine Cuts.mono ((less.value _).bind fun value rest => ?_) behind
      dsimp only
      split
      · rename_i closed
        exact (List.suffix_cons _ _).trans (closed ▸ skipBlanks_suffix rest)
      · rename_i next separated
        exact (less.pairs _ _).mono ((skipBlanks_suffix next).trans
          ((List.suffix_cons _ _).trans (separated ▸ skipBlanks_suffix rest)))
      · trivial
    · trivial
  · trivial

end ScansBehind

end EntryPoint.Document
