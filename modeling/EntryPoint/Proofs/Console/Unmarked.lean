/-
# Texts without markup

A text is one piece if it holds no tag and no escaped bracket; a closing tag behind it is
another, unless a backslash at the end of the text escapes that. In all other cases
something gets lost: the pieces weigh less than the text. So what is shown tells whether
the text held markup.

## Main definitions

* `Console.HoldsTag` - a text has a tag in it.
* `Console.closingText`, `Console.closingPieces` - the tag that may follow a text, and its pieces.
* `Console.IsWhole` - a text holds no markup and does not escape the tag behind it.
* `Console.Reads` - the pieces of a text and the tag behind it, by what the text begins with.
* `Console.piecesWeight` - what the shown pieces of a text weigh.

## Main results

* `Console.unescape_cases` - what unescaping takes away.
* `Console.reads_piecesFrom` - the pieces are those that the text is read as.
* `Console.Reads.whole_or_lighter` - a text is one piece, or its pieces weigh less.
* `Console.Reads.exists_shownText` - a text without tags can be shown.
* `Console.weight_le_of_shownText` - what is shown weighs no more than the pieces.
-/

import EntryPoint.Proofs.Console.Emoji
import EntryPoint.Proofs.Console.Markup
import Mathlib.Data.List.Infix

namespace EntryPoint.Console

open Text

variable {text before rest content inside after : List Char} {c : Char} {fuel : ℕ}
  {closing : Option (List Char)}

/-! ### Escapes -/

/-- An escaped bracket: a backslash in front of an opening bracket. -/
def escape : List Char := ['\\', '[']

theorem escape_prefix_cons_iff : escape <+: c :: text ↔ c = '\\' ∧ ∃ rest, text = '[' :: rest := by
  cases text with
  | nil => simp [escape, List.cons_prefix_cons]
  | cons d rest => simp [escape, List.cons_prefix_cons, eq_comm]

/-- Unescaping leaves a text as it is, or takes away a backslash. -/
theorem unescape_cases (text : List Char) :
    ¬escape <:+: text ∧ unescape text = text ∨
      escape <:+: text ∧ weight (unescape text) < weight text := by
  fun_induction unescape text with
  | case1 => exact .inl ⟨by simp [escape], rfl⟩
  | case2 rest ih =>
    have here : escape <:+: '\\' :: '[' :: rest := List.IsPrefix.isInfix ⟨rest, rfl⟩
    have backslash : characterWeight '\\' = 2 := rfl
    refine .inr ⟨here, ?_⟩
    rcases ih with ⟨-, same⟩ | ⟨-, less⟩
    · rw [same, weight_cons '\\', backslash]
      omega
    · rw [weight_cons, weight_cons, weight_cons, backslash]
      omega
  | case3 c rest plain ih =>
    have none : ¬escape <+: c :: rest := fun escaped => by
      obtain ⟨rfl, rest, rfl⟩ := escape_prefix_cons_iff.mp escaped
      exact plain rest rfl rfl
    rw [List.infix_cons_iff, or_iff_right none]
    rcases ih with ⟨unescaped, same⟩ | ⟨escaped, less⟩
    · exact .inl ⟨unescaped, by rw [same]⟩
    · exact .inr ⟨escaped, by rw [weight_cons, weight_cons]; omega⟩

theorem weight_unescape_le (text : List Char) : weight (unescape text) ≤ weight text := by
  rcases unescape_cases text with ⟨-, same⟩ | ⟨-, less⟩
  · rw [same]
  · exact less.le

/-! ### Tags -/

/-- A text has a tag in it. -/
def HoldsTag (text : List Char) : Prop :=
  ∃ front content back, text = front ++ '[' :: content ++ ']' :: back ∧ IsTagContent content

theorem holdsTag_cons_iff : HoldsTag (c :: text) ↔
    c = '[' ∧ (∃ content back, text = content ++ ']' :: back ∧ IsTagContent content) ∨
      HoldsTag text := by
  constructor
  · rintro ⟨front, content, back, split, tag⟩
    cases front with
    | nil =>
      obtain ⟨rfl, rfl⟩ := List.cons_eq_cons.mp split
      exact .inl ⟨rfl, content, back, rfl, tag⟩
    | cons d front =>
      obtain ⟨rfl, rfl⟩ := List.cons_eq_cons.mp split
      exact .inr ⟨front, content, back, rfl, tag⟩
  · rintro (⟨rfl, content, back, rfl, tag⟩ | ⟨front, content, back, rfl, tag⟩)
    · exact ⟨[], content, back, rfl, tag⟩
    · exact ⟨c :: front, content, back, rfl, tag⟩

theorem not_holdsTag_of_notMem (absent : '[' ∉ text) : ¬HoldsTag text := by
  rintro ⟨front, content, back, rfl, -⟩
  simp at absent

/-- Nothing but an opening bracket opens a tag. -/
theorem holdsTag_append_iff (plain : '[' ∉ before) : HoldsTag (before ++ text) ↔ HoldsTag text := by
  induction before with
  | nil => rfl
  | cons c before ih =>
    obtain ⟨other, plain⟩ := not_or.mp (List.mem_cons.not.mp plain)
    have other : ¬(c = '[') := fun same => other same.symm
    rw [List.cons_append, holdsTag_cons_iff, ih plain]
    exact or_iff_right fun opened => other opened.1

theorem tagContent?_eq_some_iff : tagContent? text = some (content, after) ↔
    text = content ++ ']' :: after ∧ IsTagContent content := by
  constructor
  · intro found
    cases text with
    | nil => cases found
    | cons c rest =>
      obtain ⟨behind, split⟩ := List.takeWhile_prefix (l := rest) fun c => c ≠ ']' && c ≠ '['
      have inside := List.all_takeWhile (l := rest) (p := fun c => c ≠ ']' && c ≠ '[')
      rw [tagContent?] at found
      generalize rest.takeWhile (fun c => c ≠ ']' && c ≠ '[') = taken at split inside found
      subst split
      by_cases opens : opensTag c
      · rw [if_neg (by simpa using opens)] at found
        dsimp only at found
        rw [List.drop_left] at found
        split at found
        · obtain ⟨rfl, rfl⟩ := Prod.mk.inj (Option.some.inj found)
          refine ⟨by simp, ⟨c, taken, rfl, opens⟩,
            List.forall_mem_cons.mpr ⟨?_, fun d member => ?_⟩⟩
          · constructor <;> rintro rfl <;> exact absurd opens (by decide)
          · simpa using List.all_eq_true.mp inside d member
        · cases found
      · rw [if_pos (by simpa using opens)] at found
        cases found
  · rintro ⟨rfl, tag⟩
    exact tagContent?_append tag after

instance decidableHoldsTag : (text : List Char) → Decidable (HoldsTag text)
  | [] => isFalse (not_holdsTag_of_notMem List.not_mem_nil)
  | c :: text =>
    have := decidableHoldsTag text
    decidable_of_iff (c = '[' ∧ (tagContent? text).isSome ∨ HoldsTag text) (by
      rw [holdsTag_cons_iff, Option.isSome_iff_exists]
      simp only [Prod.exists, tagContent?_eq_some_iff])

/-- Brackets around a number are no tag. -/
example : HoldsTag "row [a]".toList ∧ ¬HoldsTag "row [1]".toList := by decide

/-! ### Pieces -/

/-- The weight of a piece: of what is shown. -/
def Piece.weight : Piece → ℕ
  | .shown text => Console.weight text
  | .tag _ _ => 0

/-- The weight of pieces. -/
def piecesWeight (pieces : List Piece) : ℕ :=
  (pieces.map Piece.weight).sum

@[simp] theorem piecesWeight_nil : piecesWeight [] = 0 := rfl

@[simp] theorem piecesWeight_cons (piece : Piece) (pieces : List Piece) :
    piecesWeight (piece :: pieces) = piece.weight + piecesWeight pieces := by
  rw [piecesWeight, List.map_cons, List.sum_cons, piecesWeight]

@[simp] theorem piecesWeight_append (pieces pieces' : List Piece) :
    piecesWeight (pieces ++ pieces') = piecesWeight pieces + piecesWeight pieces' := by
  rw [piecesWeight, List.map_append, List.sum_append_nat, piecesWeight, piecesWeight]

theorem weight_replicate (count : ℕ) : weight (List.replicate count '\\') = 2 * count := by
  have backslash : characterWeight '\\' = 2 := rfl
  rw [weight, List.map_replicate, List.sum_replicate_nat, backslash, Nat.mul_comm]

/-- A tag is not shown, and of the backslashes before it only half are. -/
theorem piecesWeight_tagPieces_le (count : ℕ) (content : List Char) :
    piecesWeight (tagPieces count content) ≤ count + weight content := by
  have brackets : characterWeight '[' = 1 ∧ characterWeight ']' = 0 := ⟨rfl, rfl⟩
  unfold tagPieces
  dsimp only
  split
  · simp only [piecesWeight_cons, piecesWeight_nil, Piece.weight, weight_replicate, weight_append,
      weight_cons, weight_nil, brackets]
    omega
  · simp only [piecesWeight_cons, piecesWeight_nil, Piece.weight, weight_replicate,
      Piece.ofContent]
    omega

/-! ### A text and the tag behind it -/

/-- The tag behind a text, if there is one. -/
def closingText : Option (List Char) → List Char
  | none => []
  | some content => '[' :: content ++ [']']

/-- The pieces behind that of the text. -/
def closingPieces : Option (List Char) → List Piece
  | none => []
  | some content => [.shown [], .ofContent content, .shown []]

theorem piecesWeight_closingPieces (closing : Option (List Char)) :
    piecesWeight (closingPieces closing) = 0 := by
  cases closing <;> rfl

/-- What may stand in the tag behind a text. -/
def IsClosing (closing : Option (List Char)) : Prop :=
  ∀ content ∈ closing, IsTagContent content ∧ weight content = 0

/-- A text holds no tag and no escaped bracket, where some characters before it, last first, belong
to it as far as brackets may be escaped, and does not escape the tag behind it. -/
structure IsWhole (closing : Option (List Char)) (before text : List Char) : Prop where
  tagless : ¬HoldsTag text
  unescaped : ¬escape <:+: before.reverse ++ text
  unfinished : closing.isSome → text.getLast? ≠ some '\\'

/-- The tag behind a text is no part of a tag in the text. -/
theorem tagContent?_append_closingText_eq_some_iff :
    tagContent? (text ++ closingText closing) = some (content, after) ↔
      ∃ behind, tagContent? text = some (content, behind) ∧
        after = behind ++ closingText closing := by
  simp only [tagContent?_eq_some_iff]
  constructor
  · rintro ⟨split, tag⟩
    rcases List.append_eq_append_iff.mp split with
      ⟨further, rfl, tail⟩ | ⟨further, rfl, tail⟩
    · -- The content would reach into the tag behind the text, whose bracket it may not hold.
      cases further with
      | nil => cases closing <;> simp [closingText] at tail
      | cons d further =>
        cases closing with
        | none => simp [closingText] at tail
        | some ending =>
          obtain ⟨rfl, -⟩ := List.cons_eq_cons.mp tail
          exact absurd rfl (tag.inside '[' (by simp)).2
    · cases further with
      | nil => cases closing <;> simp [closingText] at tail
      | cons d further =>
        obtain ⟨rfl, rfl⟩ := List.cons_eq_cons.mp tail
        exact ⟨further, ⟨rfl, tag⟩, rfl⟩
  · rintro ⟨behind, ⟨rfl, tag⟩, rfl⟩
    exact ⟨by simp, tag⟩

/-- A character that is no bracket belongs to the text just as those before it. -/
theorem isWhole_cons_iff (other : c ≠ '[')
    (last : text = [] → closing.isSome → c ≠ '\\') :
    IsWhole closing before (c :: text) ↔ IsWhole closing (c :: before) text := by
  have same : (c :: before).reverse ++ text = before.reverse ++ c :: text := by simp
  have tag : HoldsTag (c :: text) ↔ HoldsTag text :=
    holdsTag_cons_iff.trans (or_iff_right fun opened => other opened.1)
  have finished : (closing.isSome → (c :: text).getLast? ≠ some '\\') ↔
      (closing.isSome → text.getLast? ≠ some '\\') := by
    cases text with
    | nil => simpa using last rfl
    | cons d text => rw [List.getLast?_cons_cons]
  constructor
  · rintro ⟨tagless, unescaped, unfinished⟩
    exact ⟨tag.not.mp tagless, same ▸ unescaped, finished.mp unfinished⟩
  · rintro ⟨tagless, unescaped, unfinished⟩
    exact ⟨tag.not.mpr tagless, same ▸ unescaped, finished.mpr unfinished⟩

/-- So does a bracket that opens no tag. -/
theorem isWhole_bracket_iff (count : ℕ) (unopened : tagContent? text = none) :
    IsWhole closing before (List.replicate count '\\' ++ '[' :: text) ↔
      IsWhole closing ('[' :: List.replicate count '\\' ++ before) text := by
  have same : ('[' :: List.replicate count '\\' ++ before).reverse ++ text =
      before.reverse ++ (List.replicate count '\\' ++ '[' :: text) := by simp
  have tag : HoldsTag (List.replicate count '\\' ++ '[' :: text) ↔ HoldsTag text := by
    rw [holdsTag_append_iff (by simp), holdsTag_cons_iff]
    refine or_iff_right ?_
    rintro ⟨-, content, back, split, tag⟩
    rw [tagContent?_eq_some_iff.mpr ⟨split, tag⟩] at unopened
    cases unopened
  have last : (List.replicate count '\\' ++ '[' :: text).getLast? = some '\\' ↔
      text.getLast? = some '\\' := by
    cases text <;> simp
  constructor
  · rintro ⟨tagless, unescaped, unfinished⟩
    exact ⟨tag.not.mp tagless, same ▸ unescaped, fun closes => last.not.mp (unfinished closes)⟩
  · rintro ⟨tagless, unescaped, unfinished⟩
    exact ⟨tag.not.mpr tagless, same ▸ unescaped, fun closes => last.not.mpr (unfinished closes)⟩

/-- Characters that are neither brackets nor backslashes make no difference in front of a text. -/
theorem isWhole_append_iff (bracket : '[' ∉ before) (backslash : '\\' ∉ before) :
    IsWhole closing [] (before ++ text) ↔ IsWhole closing [] text := by
  have escaped : escape <:+: before ++ text ↔ escape <:+: text := by
    induction before with
    | nil => rfl
    | cons c before ih =>
      obtain ⟨other, backslash⟩ := not_or.mp (List.mem_cons.not.mp backslash)
      rw [List.cons_append, List.infix_cons_iff, escape_prefix_cons_iff,
        ih (fun member => bracket (.tail _ member)) backslash]
      exact or_iff_right fun opened => other opened.1.symm
  have last : (before ++ text).getLast? = some '\\' ↔ text.getLast? = some '\\' := by
    rw [List.getLast?_append, Option.or_eq_some_iff]
    exact or_iff_left fun ending => backslash (List.mem_of_getLast? ending.2)
  constructor
  · rintro ⟨tagless, unescaped, unfinished⟩
    exact ⟨(holdsTag_append_iff bracket).not.mp tagless, escaped.not.mp unescaped,
      fun closes => last.not.mp (unfinished closes)⟩
  · rintro ⟨tagless, unescaped, unfinished⟩
    exact ⟨(holdsTag_append_iff bracket).not.mpr tagless, escaped.not.mpr unescaped,
      fun closes => last.not.mpr (unfinished closes)⟩

/-- A bracket in a text with a tag behind it is in the text, or opens the tag. -/
theorem eq_replicate_append_cases {count : ℕ}
    (split : text ++ closingText closing = List.replicate count '\\' ++ '[' :: inside) :
    (∃ inner, text = List.replicate count '\\' ++ '[' :: inner ∧
        inside = inner ++ closingText closing) ∨
      text = List.replicate count '\\' ∧
        ∃ content, closing = some content ∧ inside = content ++ [']'] := by
  rcases List.append_eq_append_iff.mp split with ⟨further, backslashes, tail⟩ | ⟨further, rfl, tail⟩
  · cases closing with
    | none => simp [closingText] at tail
    | some content =>
      cases further with
      | nil =>
        obtain ⟨-, rfl⟩ := List.cons_eq_cons.mp tail
        exact .inr ⟨by simpa using backslashes.symm, content, rfl, rfl⟩
      | cons d further =>
        -- The tag does not open with a backslash.
        obtain ⟨rfl, -⟩ := List.cons_eq_cons.mp tail
        have member : '[' ∈ List.replicate count '\\' := backslashes ▸ by simp
        simp at member
  · cases further with
    | nil =>
      cases closing with
      | none => simp [closingText] at tail
      | some content =>
        obtain ⟨-, rfl⟩ := List.cons_eq_cons.mp tail
        exact .inr ⟨by simp, content, rfl, rfl⟩
    | cons d further =>
      obtain ⟨rfl, rfl⟩ := List.cons_eq_cons.mp tail
      exact .inl ⟨further, rfl, rfl⟩

/-! ### Reading a text -/

/-- The pieces of a text with or without a tag behind it, by what the text begins with, given the
characters before it, last first. -/
inductive Reads (closing : Option (List Char)) : List Char → List Char → List Piece → Prop
  | ending {before : List Char} (unclosed : closing = none) :
    Reads closing before [] [.shown (unescape before.reverse)]
  | closing {before content : List Char} (count : ℕ) (closes : closing = some content) :
    Reads closing before (List.replicate count '\\')
      (.shown (unescape before.reverse) :: tagPieces count content ++ [.shown []])
  | tag {before content behind : List Char} {pieces : List Piece} (count : ℕ)
      (tag : IsTagContent content) (reads : Reads closing [] behind pieces) :
    Reads closing before (List.replicate count '\\' ++ '[' :: (content ++ ']' :: behind))
      (.shown (unescape before.reverse) :: tagPieces count content ++ pieces)
  | bracket {before inner : List Char} {pieces : List Piece} (count : ℕ)
      (unopened : tagContent? inner = none)
      (reads : Reads closing ('[' :: List.replicate count '\\' ++ before) inner pieces) :
    Reads closing before (List.replicate count '\\' ++ '[' :: inner) pieces
  | character {before rest : List Char} {c : Char} {pieces : List Piece} (other : c ≠ '[')
      (last : rest = [] → closing.isSome → c ≠ '\\')
      (reads : Reads closing (c :: before) rest pieces) :
    Reads closing before (c :: rest) pieces

/-- With enough fuel for each character of a text, its pieces are read in this way. -/
theorem reads_piecesFrom (closes : IsClosing closing)
    (enough : (rest ++ closingText closing).length < fuel) :
    Reads closing before rest (piecesFrom fuel before (rest ++ closingText closing)) := by
  induction fuel generalizing before rest with
  | zero => exact absurd enough (Nat.not_lt_zero _)
  | succ fuel ih =>
    by_cases bracket : ∃ count inside,
        rest ++ closingText closing = List.replicate count '\\' ++ '[' :: inside
    · obtain ⟨count, inside, split⟩ := bracket
      rw [split, piecesFrom_bracket]
      rcases eq_replicate_append_cases split with
        ⟨inner, rfl, rfl⟩ | ⟨rfl, content, rfl, rfl⟩
      · rw [split, List.length_append, List.length_cons] at enough
        cases opened : tagContent? (inner ++ closingText closing) with
        | none =>
          have unopened : tagContent? inner = none := by
            by_contra tagged
            obtain ⟨⟨content, behind⟩, found⟩ := Option.ne_none_iff_exists'.mp tagged
            rw [tagContent?_append_closingText_eq_some_iff.mpr ⟨behind, found, rfl⟩] at opened
            cases opened
          exact .bracket count unopened (ih (by omega))
        | some found =>
          obtain ⟨content, after⟩ := found
          obtain ⟨behind, inside, rfl⟩ := tagContent?_append_closingText_eq_some_iff.mp opened
          obtain ⟨rfl, tag⟩ := tagContent?_eq_some_iff.mp inside
          have shorter : (behind ++ closingText closing).length < fuel := by
            simp only [List.length_append, List.length_cons] at enough ⊢
            omega
          exact .tag count tag (ih shorter)
      · rw [tagContent?_append (closes content rfl).1]
        dsimp only
        rw [piecesFrom_nil]
        exact .closing count rfl
    · -- So no tag opens here, and what comes first stands for itself.
      cases rest with
      | nil =>
        cases closing with
        | some content => exact absurd ⟨0, content ++ [']'], rfl⟩ bracket
        | none =>
          rw [closingText, List.append_nil, piecesFrom_nil]
          exact .ending rfl
      | cons c rest =>
        have other : c ≠ '[' := by
          rintro rfl
          exact bracket ⟨0, rest ++ closingText closing, rfl⟩
        have last : rest = [] → closing.isSome → c ≠ '\\' := by
          rintro rfl some rfl
          obtain ⟨content, rfl⟩ := Option.isSome_iff_exists.mp some
          exact bracket ⟨1, content ++ [']'], rfl⟩
        have step : piecesFrom (fuel + 1) before (c :: rest ++ closingText closing) =
            piecesFrom fuel (c :: before) (rest ++ closingText closing) :=
          piecesFrom_cons_of_not_bracket fun count inside same => bracket ⟨count, inside, same⟩
        rw [step]
        exact .character other last (ih (by simpa using enough))

/-- A text is one piece, or its pieces weigh less. -/
theorem Reads.whole_or_lighter {pieces : List Piece} (reads : Reads closing before rest pieces)
    (closes : IsClosing closing) :
    IsWhole closing before rest ∧
        pieces = .shown (before.reverse ++ rest) :: closingPieces closing ∨
      ¬IsWhole closing before rest ∧ piecesWeight pieces < weight before + weight rest := by
  have empty : ¬HoldsTag [] := not_holdsTag_of_notMem List.not_mem_nil
  induction reads with
  | @ending before unclosed =>
    subst unclosed
    rcases unescape_cases before.reverse with ⟨unescaped, kept⟩ | ⟨escaped, less⟩
    · rw [kept, List.append_nil]
      exact .inl ⟨⟨empty, by simpa using unescaped, by simp⟩, rfl⟩
    · refine .inr ⟨fun whole => whole.unescaped (by simpa using escaped), ?_⟩
      rw [weight_reverse] at less
      simpa [Piece.weight] using less
  | @closing before content count same =>
    subst same
    have weightless := (closes content rfl).2
    cases count with
    | zero =>
      have pieces : tagPieces 0 content = [.shown [], .ofContent content] := rfl
      rw [pieces, List.replicate_zero, List.append_nil]
      rcases unescape_cases before.reverse with ⟨unescaped, kept⟩ | ⟨escaped, less⟩
      · rw [kept]
        exact .inl ⟨⟨empty, by simpa using unescaped, by simp⟩, rfl⟩
      · refine .inr ⟨fun whole => whole.unescaped (by simpa using escaped), ?_⟩
        rw [weight_reverse] at less
        simpa [Piece.weight, Piece.ofContent] using less
    | succ count =>
      -- The last backslash escapes the tag, or is shown once for two.
      have shown := weight_unescape_le before.reverse
      have lost := piecesWeight_tagPieces_le (count + 1) content
      refine .inr ⟨fun whole => whole.unfinished rfl (by simp [List.getLast?_replicate]), ?_⟩
      rw [weight_reverse] at shown
      simp only [piecesWeight_append, piecesWeight_cons, piecesWeight_nil, Piece.weight, weight_nil,
        weight_replicate]
      omega
  | @tag before content behind pieces count tag reads ih =>
    -- The bracket of the tag is lost, and a backslash before it if there is one.
    have tagged : HoldsTag (List.replicate count '\\' ++ '[' :: (content ++ ']' :: behind)) :=
      ⟨List.replicate count '\\', content, behind, by simp, tag⟩
    have less : piecesWeight pieces ≤ weight behind := by
      rcases ih with ⟨-, rfl⟩ | ⟨-, less⟩
      · rw [piecesWeight_cons, piecesWeight_closingPieces]
        exact le_rfl
      · simpa using less.le
    have bracket : characterWeight '[' = 1 := rfl
    have ending : characterWeight ']' = 0 := rfl
    have shown := weight_unescape_le before.reverse
    have lost := piecesWeight_tagPieces_le count content
    refine .inr ⟨fun whole => whole.tagless tagged, ?_⟩
    rw [weight_reverse] at shown
    simp only [piecesWeight_append, piecesWeight_cons, Piece.weight, weight_append, weight_cons,
      weight_replicate, bracket, ending]
    omega
  | @bracket before inner pieces count unopened reads ih =>
    have weighs : weight ('[' :: List.replicate count '\\' ++ before) + weight inner =
        weight before + weight (List.replicate count '\\' ++ '[' :: inner) := by
      simp only [List.cons_append, weight_append, weight_cons]
      omega
    rw [isWhole_bracket_iff count unopened, ← weighs]
    simpa using ih
  | @character before rest c pieces other last reads ih =>
    have weighs : weight (c :: before) + weight rest = weight before + weight (c :: rest) := by
      rw [weight_cons, weight_cons]
      omega
    rw [isWhole_cons_iff other last, ← weighs]
    simpa using ih

/-- What is shown weighs no more than the pieces. -/
theorem weight_le_of_shownText {opened : List Opened} {pieces : List Piece}
    (shown : shownText opened pieces = .ok text) : weight text ≤ piecesWeight pieces := by
  fun_induction shownText opened pieces generalizing text with
  | case1 opened =>
    cases shown
    exact le_rfl
  | case2 opened piece pieces ih =>
    cases rest : shownText opened pieces with
    | error mistake =>
      rw [rest] at shown
      cases shown
    | ok behind =>
      rw [rest] at shown
      cases shown
      have replaced := weight_replaceCodes_le piece
      have less := ih rest
      rw [weight_append, piecesWeight_cons, Piece.weight]
      omega
  | case3 opened name parameters pieces ih =>
    cases ended : Opened.close name opened with
    | error mistake =>
      rw [ended] at shown
      cases shown
    | ok left =>
      rw [ended] at shown
      rw [piecesWeight_cons, Piece.weight, Nat.zero_add]
      exact ih left shown
  | case4 opened name parameters pieces unended ih =>
    cases named : styleOf name with
    | error mistake =>
      rw [named] at shown
      cases shown
    | ok style =>
      rw [named] at shown
      rw [piecesWeight_cons, Piece.weight, Nat.zero_add]
      exact ih style shown

/-- A text without tags can be shown wherever the tag behind it can. -/
theorem Reads.exists_shownText {pieces : List Piece} {opened : List Opened}
    (reads : Reads closing before rest pieces) (tagless : ¬HoldsTag rest)
    (closed : shownText opened (closingPieces closing) = .ok []) :
    ∃ text, shownText opened pieces = .ok text := by
  induction reads with
  | ending unclosed => exact ⟨_, rfl⟩
  | @closing before content count same =>
    subst same
    have behind : shownText opened [.ofContent content, .shown []] = .ok [] := by
      rwa [closingPieces, shownText_shown_nil] at closed
    rw [tagPieces]
    split
    · exact ⟨_, rfl⟩
    · have shown := shownText_map_shown opened
        [unescape before.reverse, List.replicate (count / 2) '\\'] [.ofContent content, .shown []]
      rw [behind] at shown
      exact ⟨_, shown⟩
  | @tag before content behind pieces count tag reads ih =>
    exact absurd ⟨List.replicate count '\\', content, behind, by simp, tag⟩ tagless
  | bracket count unopened reads ih =>
    rw [holdsTag_append_iff (by simp), holdsTag_cons_iff] at tagless
    exact ih fun tagged => tagless (.inr tagged)
  | character other last reads ih =>
    exact ih fun tagged => tagless (holdsTag_cons_iff.mpr (.inr tagged))

end EntryPoint.Console
