/-
# Going on through a text

What reads the parts of a text goes on through it from its start to its end. What cannot be
made out is nothing but form, except for two things that stand in the text: a run of digits
that is too long for the number of a version, and an escape with a code beyond all
characters.

## Main definitions

* `Garbled` - a text has such digits or such an escape.
* `Cursor.Within` - a cursor is at a place in a text.
* `Scans` - a part of a text is read and the cursor stays within, or it cannot be made out.

## Main results

* `Cursor.Within.scanQuoted` - quoted scalars, the only place of escapes.
* `Cursor.Within.scanPlain`, `Cursor.Within.scanBlock` - the other scalars.
* `Cursor.Within.scanName`, `Cursor.Within.scanTag` - names and tags.
* `Cursor.Within.scanDirective` - directives, the only place of versions.
-/

import EntryPoint.Document.Yaml.Scalar
import EntryPoint.Document.Yaml.Token.Property
import EntryPoint.Proofs.Document.Json.LongInteger
import EntryPoint.Proofs.Text.Digits

namespace EntryPoint.Document.Yaml

open Text

variable {α β : Type} {text : List Char} {cursor : Cursor} {kind : UnforeseenKind}

/-- A text has a run of digits that is too long for a number, or an escape with a code beyond all
characters. -/
inductive Garbled (text : List Char) : UnforeseenKind → Prop
  | digits {n : Nat} (long : HoldsDigits n text) : Garbled text .value
  | escape {digits : List Char} (inside : '\\' :: 'U' :: digits <:+: text)
    (count : digits.length = 8) (hexadecimal : ∀ c ∈ digits, isDigitOf 16 c)
    (beyond : 0x110000 ≤ ofDigits 16 digits) :
    Garbled text (if ofDigits 16 digits < 0x80000000 then .value else .overflow)

/-- A flaw that is not one of form has its grounds in a text. -/
def Grounded (text : List Char) (flaw : Flaw) : Prop :=
  ∀ kind, flaw = .unforeseen kind → Garbled text kind

theorem grounded_malformed : Grounded text .malformed := by
  rintro kind ⟨⟩

/-! ### Places -/

namespace Cursor

theorem rest_next (cursor : Cursor) : cursor.next.rest = cursor.rest.drop 1 := by
  unfold next
  split
  · rename_i ended
    rw [ended, List.drop_nil]
  · rename_i c rest ahead
    rw [ahead, List.drop_one, List.tail_cons]

/-- Going on past some characters drops them from what lies ahead. -/
theorem rest_skip (cursor : Cursor) (count : Nat) :
    (cursor.skip count).rest = cursor.rest.drop count := by
  induction count generalizing cursor with
  | zero => rfl
  | succ count ih => rw [skip, ih, rest_next, List.drop_drop, Nat.add_comm]

/-- What lies ahead of a cursor is the end of a text. -/
def Within (text : List Char) (cursor : Cursor) : Prop :=
  cursor.rest <:+ text

namespace Within

theorem next (within : Within text cursor) : Within text cursor.next := by
  unfold Within
  rw [rest_next]
  exact (List.drop_suffix _ _).trans within

theorem skip (within : Within text cursor) (count : Nat) : Within text (cursor.skip count) := by
  unfold Within
  rw [rest_skip]
  exact (List.drop_suffix _ _).trans within

theorem span (within : Within text cursor) (p : Char → Bool) : Within text (cursor.span p).2 :=
  within.skip _

theorem skipWhile (within : Within text cursor) (p : Char → Bool) :
    Within text (cursor.skipWhile p) :=
  within.skip _

theorem skipSpaces (within : Within text cursor) : Within text cursor.skipSpaces :=
  within.skip _

/-- A line break is one character or the two of a carriage return with a line feed. -/
theorem lineBreak? {c : Char} {behind : Cursor} (within : Within text cursor)
    (found : cursor.lineBreak? = some (c, behind)) : Within text behind := by
  unfold Cursor.lineBreak? at found
  split at found
  · cases found
    exact within.skip 2
  · split at found
    · cases found
      exact within.next
    · split at found
      · cases found
        exact within.next
      · cases found
  · cases found

theorem skipComment (within : Within text cursor) : Within text cursor.skipComment := by
  unfold Cursor.skipComment
  split
  · exact within.skip _
  · exact within

theorem skipBreak (within : Within text cursor) : Within text cursor.skipBreak := by
  unfold Cursor.skipBreak
  cases found : cursor.lineBreak? with
  | none => exact within
  | some behind => exact within.lineBreak? found

/-- The rest of a line may hold blanks and a comment, and nothing else. -/
theorem restOfLine {behind : Cursor} (within : Within text cursor)
    (found : cursor.restOfLine = some behind) : Within text behind := by
  unfold Cursor.restOfLine at found
  dsimp only at found
  split at found
  · cases found
    exact within.skipSpaces.skipComment.skipBreak
  · cases found

end Within

end Cursor

/-- A part of the lexer goes on within a text, or stops at a flaw that has its grounds there. -/
def Scans (text : List Char) (result : Except Flaw (α × Cursor)) : Prop :=
  Upholds (fun scanned => scanned.2.Within text) (Grounded text) result

namespace Scans

theorem malformed : Scans text (.error .malformed : Except Flaw (α × Cursor)) :=
  grounded_malformed

theorem ok {value : α} (within : cursor.Within text) : Scans text (.ok (value, cursor)) :=
  within

/-- Parts that follow each other scan if each does, wherever the one before has come to. -/
theorem bind {first : Except Flaw (α × Cursor)} {second : α × Cursor → Except Flaw (β × Cursor)}
    (here : Scans text first)
    (further : ∀ value cursor, cursor.Within text → Scans text (second (value, cursor))) :
    Scans text (first >>= second) :=
  Upholds.bind here fun (value, cursor) within => further value cursor within

/-- A condition that is not met is a flaw of form, whatever would have followed. -/
theorem require {condition : Bool} {next : Unit → Except Flaw (α × Cursor)}
    (further : Scans text (next ())) : Scans text (require condition >>= next) := by
  cases condition with
  | false => exact malformed
  | true => exact further

end Scans

/-! ### Escapes -/

/-- Only the escape with a capital `U` has more than four digits. -/
theorem le_or_eq_of_codeEscapeDigits? {c : Char} {count : Nat}
    (escape : codeEscapeDigits? c = some count) : count ≤ 4 ∨ c = 'U' ∧ count = 8 := by
  have member : (c, count) ∈ [('x', 2), ('u', 4), ('U', 8)] := by
    obtain ⟨before, behind, split, -⟩ := List.lookup_eq_some_iff.mp escape
    rw [split]
    exact List.mem_append_right before (List.mem_cons_self ..)
  simp only [List.mem_cons, Prod.mk.injEq, List.not_mem_nil, or_false] at member
  rcases member with ⟨-, rfl⟩ | ⟨-, rfl⟩ | ⟨same, rfl⟩
  · exact .inl (by decide)
  · exact .inl (by decide)
  · exact .inr ⟨same, rfl⟩

/-- The character of an escape is missing only if the escape has eight digits and its code is beyond
all characters. -/
theorem upholds_characterOf {digits : List Char} {c : Char}
    (escape : codeEscapeDigits? c = some digits.length) (hexadecimal : digits.all (isDigitOf 16))
    (inside : '\\' :: c :: digits <:+: text) :
    Upholds (fun _ => True) (Grounded text) (characterOf (ofDigits 16 digits)) := by
  have digit := List.all_eq_true.mp hexadecimal
  have small := ofDigits_lt digit
  unfold characterOf
  split
  · trivial
  · rename_i invalid
    split
    · trivial
    · rename_i large
      have beyond : 0x110000 ≤ ofDigits 16 digits := by
        unfold Nat.isValidChar at invalid
        omega
      -- The codes of two and four digits are below the bound.
      obtain ⟨rfl, count⟩ := (le_or_eq_of_codeEscapeDigits? escape).resolve_left fun short =>
        absurd small (not_lt.mpr ((Nat.pow_le_pow_right (by decide) short).trans (by omega)))
      have garbled := Garbled.escape inside count digit beyond
      split
      · rename_i narrow
        rw [if_pos narrow] at garbled
        rintro _ ⟨⟩
        exact garbled
      · rename_i wide
        rw [if_neg wide] at garbled
        rintro _ ⟨⟩
        exact garbled

namespace Cursor.Within

/-- Blank lines within a quoted scalar are gone over. -/
theorem quotedBreaks (within : Within text cursor) (fuel : Nat) :
    Scans text (quotedBreaks fuel cursor) := by
  induction fuel generalizing cursor with
  | zero => exact .malformed
  | succ fuel ih =>
    unfold Yaml.quotedBreaks
    split
    · exact .malformed
    · dsimp only
      split
      · exact .ok (within.skipWhile _)
      · rename_i found
        exact (ih ((within.skipWhile _).lineBreak? found)).bind fun _ _ within => .ok within

/-- An escape is read, or it is no escape, or its code is beyond all characters. -/
theorem scanEscape (within : '\\' :: cursor.rest <:+ text) : Scans text (scanEscape cursor) := by
  have behind : cursor.Within text := (List.suffix_cons _ _).trans within
  unfold Yaml.scanEscape
  split
  · exact .malformed
  · rename_i c rest ahead
    split
    · exact .ok behind.next
    · rename_i count _ escape
      dsimp only
      split
      -- The escape stands in the text with its backslash, so the cursor is behind that one.
      · rename_i digits
        rw [Cursor.rest_next, ahead, List.drop_one, List.tail_cons] at digits ⊢
        have inside : '\\' :: c :: rest.take count <:+: '\\' :: cursor.rest := by
          have front := List.prefix_append ('\\' :: c :: rest.take count) (rest.drop count)
          rw [List.cons_append, List.cons_append, List.take_append_drop] at front
          exact ahead ▸ front.isInfix
        have character := upholds_characterOf (digits.1.symm ▸ escape) digits.2
          (inside.trans within.isInfix)
        exact character.bind fun _ _ => behind.skip _
      · exact .malformed
    · split
      · rename_i found
        exact (behind.lineBreak? found).quotedBreaks _
      · exact .malformed

/-! ### Quoted scalars -/

theorem quotedGap (within : cursor.Within text) : Scans text (quotedGap cursor) := by
  unfold Yaml.quotedGap
  dsimp only
  have behind := within.span fun c => c = ' ' || c = '\t'
  split
  · rename_i found
    exact ((behind.lineBreak? found).quotedBreaks _).bind fun _ _ within => .ok within
  · split
    · exact .malformed
    · exact .ok behind

/-- The parts of a quoted scalar are read up to its closing quote. -/
theorem quotedFrom (within : cursor.Within text) (quote : Char) (fuel : Nat) :
    Scans text (quotedFrom quote fuel cursor) := by
  induction fuel generalizing cursor with
  | zero => exact .malformed
  | succ fuel ih =>
    unfold Yaml.quotedFrom
    refine Scans.bind ?_ fun first cursor within => ?_
    · split
      · exact .malformed
      · rename_i c rest ahead
        split_ifs with closing doubled escaped gap
        · exact .ok (within.skip 2)
        · exact .ok within
        · refine scanEscape ?_
          rw [Cursor.rest_next, ahead, List.drop_one, List.tail_cons, ← escaped.1, ← ahead]
          exact within
        · exact within.quotedGap
        · exact .ok within.next
    · dsimp only
      split
      · exact .ok within.next
      · exact (ih within).bind fun _ _ within => .ok within

/-- A quoted scalar is read, or it is not closed, or one of its escapes is at fault. -/
theorem scanQuoted (within : cursor.Within text) (quote : Char) :
    Scans text (scanQuoted quote cursor) :=
  (within.next.quotedFrom quote _).bind fun _ _ within => .ok within

/-! ### Plain scalars -/

theorem plainBreaks (within : cursor.Within text) (fuel : Nat) :
    (plainBreaks fuel cursor).2.Within text := by
  induction fuel generalizing cursor with
  | zero => exact within
  | succ fuel ih =>
    unfold Yaml.plainBreaks
    split
    · exact within
    · dsimp only
      split
      · exact within.skipSpaces
      · rename_i found
        exact ih (within.skipSpaces.lineBreak? found)

theorem plainGap (within : cursor.Within text) : (plainGap cursor).cursor.Within text := by
  unfold Yaml.plainGap
  dsimp only
  split
  · exact within.span _
  · rename_i found
    exact ((within.span _).lineBreak? found).plainBreaks _

/-- A plain scalar goes on over runs of its characters and the gaps between them, without fail. -/
theorem plainFrom {gap : PlainGap} (within : gap.cursor.Within text) (inFlow : Bool)
    (indent fuel : Nat) : (plainFrom inFlow indent fuel gap).2.cursor.Within text := by
  induction fuel generalizing gap with
  | zero => exact within
  | succ fuel ih =>
    unfold Yaml.plainFrom
    split
    · exact within
    · dsimp only
      have behind := (within.skip (plainRun inFlow gap.cursor.rest).length).plainGap
      split
      · exact behind
      · exact ih behind

/-- A plain scalar is read without fail, if only as the empty text. -/
theorem scanPlain (within : cursor.Within text) (inFlow : Bool) (indent : Nat) :
    (scanPlain inFlow indent cursor).2.2.Within text := by
  have opens : (PlainGap.mk [] false cursor).cursor.Within text := within
  exact opens.plainFrom inFlow indent (cursor.rest.length + 1)

/-! ### Blocks -/

theorem scanChomping (within : cursor.Within text) : (scanChomping cursor).2.Within text := by
  unfold Yaml.scanChomping
  split
  · exact within.next
  · exact within

theorem scanIncrement (within : cursor.Within text) : Scans text (scanIncrement cursor) := by
  unfold Yaml.scanIncrement
  split
  · split_ifs
    · exact .malformed
    · exact .ok within.next
    · exact .ok within
  · exact .ok within

/-- The header of a block scalar is an indicator or two, in either order, and no more on its line.
-/
theorem scanBlockHeader (within : cursor.Within text) : Scans text (scanBlockHeader cursor) := by
  -- The indicators come in either order, so the cursor behind the first is kept as it is.
  have chomped := within.scanChomping
  unfold Yaml.scanBlockHeader
  revert chomped
  generalize Yaml.scanChomping cursor = before
  intro chomped
  refine (scanIncrement chomped).bind fun increment cursor within => ?_
  have behind : (if before.1.isNone && increment.isSome then Yaml.scanChomping cursor
      else (none, cursor)).2.Within text := by
    split
    · exact within.scanChomping
    · exact within
  dsimp only
  generalize (if before.1.isNone && increment.isSome then Yaml.scanChomping cursor
      else (none, cursor)) = header at behind ⊢
  split
  · exact .malformed
  · split
    · rename_i found
      exact .ok (behind.restOfLine found)
    · exact .malformed

/-- The empty lines in front of a block scalar, whose indentation is yet to be found. -/
theorem leadingBreaks (within : cursor.Within text) (fuel widest : Nat) :
    (leadingBreaks fuel widest cursor).2.2.Within text := by
  induction fuel generalizing cursor widest with
  | zero => exact within
  | succ fuel ih =>
    unfold Yaml.leadingBreaks
    dsimp only
    split
    · exact within.skipSpaces
    · rename_i found
      exact ih (within.skipSpaces.lineBreak? found) _

theorem blockBreaks (within : cursor.Within text) (column fuel : Nat) :
    (blockBreaks column fuel cursor).2.Within text := by
  induction fuel generalizing cursor with
  | zero => exact within
  | succ fuel ih =>
    have spaced : (cursor.skipSpacesTo column).Within text := within.skip _
    unfold Yaml.blockBreaks
    dsimp only
    split
    · exact spaced
    · rename_i found
      exact ih (spaced.lineBreak? found)

/-- The lines of a block scalar are read as long as they are indented. -/
theorem blockLines (within : cursor.Within text) (folded : Bool) (chomping : Chomping)
    (column fuel : Nat) : (blockLines folded chomping column fuel cursor).2.Within text := by
  induction fuel generalizing cursor with
  | zero => exact within
  | succ fuel ih =>
    have line := within.span fun c => !isBreak c
    unfold Yaml.blockLines
    dsimp only
    split
    · rename_i found
      have behind := (line.lineBreak? found).blockBreaks column
      dsimp only
      split
      · exact ih (behind _)
      · exact behind _
    · have behind := line.blockBreaks column
      dsimp only
      split
      · exact ih (behind _)
      · exact behind _

/-- A block scalar is read, with the indentation that its header states or its first line shows. -/
theorem scanBlock (within : cursor.Within text) (folded : Bool) (least : Nat) :
    Scans text (scanBlock folded least cursor) := by
  unfold Yaml.scanBlock
  refine within.next.scanBlockHeader.bind fun header cursor within => ?_
  obtain ⟨chomping, increment⟩ := header
  cases increment with
  | none =>
    have opens := within.leadingBreaks (cursor.rest.length + 1) 0
    dsimp only
    refine Scans.ok ?_
    split
    · exact opens.blockLines _ _ _ _
    · exact opens
  | some increment =>
    have opens := within.blockBreaks (max least 1 + increment - 1) (cursor.rest.length + 1)
    dsimp only
    refine Scans.ok ?_
    split
    · exact opens.blockLines _ _ _ _
    · exact opens

/-! ### Names and tags -/

theorem scanName (within : cursor.Within text) : Scans text (scanName cursor) := by
  unfold Yaml.scanName
  dsimp only
  exact .require (.ok (within.next.span _))

/-- The bytes of a tag that are written by their codes. -/
theorem scanEscapedBytes (within : cursor.Within text) (fuel : Nat) :
    Scans text (scanEscapedBytes fuel cursor) := by
  induction fuel generalizing cursor with
  | zero => exact .malformed
  | succ fuel ih =>
    unfold Yaml.scanEscapedBytes
    split
    · exact .ok within
    · exact .require ((ih (within.skip 3)).bind fun _ _ within => .ok within)

/-- A tag is read, or the bytes that it is written with spell no text. -/
theorem tagFrom (within : cursor.Within text) (fuel : Nat) : Scans text (tagFrom fuel cursor) := by
  have spells (bytes : List UInt8) : Upholds (fun _ => True) (Grounded text) (spelled bytes) := by
    unfold spelled
    split
    · trivial
    · exact grounded_malformed
  induction fuel generalizing cursor with
  | zero => exact .malformed
  | succ fuel ih =>
    unfold Yaml.tagFrom
    dsimp only
    split
    · exact .ok (within.span _)
    · refine ((within.span _).scanEscapedBytes _).bind fun bytes cursor within => ?_
      refine (spells bytes).bind fun _ _ => ?_
      exact (ih within).bind fun _ _ within => .ok within

theorem scanTagText (within : cursor.Within text) : Scans text (scanTagText cursor) :=
  .require ((within.tagFrom _).bind fun _ _ within => .ok within)

theorem scanHandle (within : cursor.Within text) : Scans text (scanHandle cursor) := by
  refine .require ?_
  dsimp only
  split
  · exact .ok (within.next.span _)
  · exact .require (.ok (within.next.span _).next)

/-- A tag is read in each of its forms, or it is not followed by a blank. -/
theorem scanTag (within : cursor.Within text) : Scans text (scanTag cursor) := by
  unfold Yaml.scanTag
  refine Scans.bind ?_ fun token cursor within => .require (.ok within)
  split
  · exact (within.skip 2).scanTagText.bind fun _ _ within => .require (.ok within.next)
  · split
    · exact .ok within.next
    · have spelled (handle : String) {cursor : Cursor} (within : cursor.Within text) :
          Scans text (do
            let scanned ← Yaml.scanTagText cursor
            .ok (Token.tag (some handle) scanned.1, scanned.2)) :=
        within.scanTagText.bind fun _ _ within => .ok within
      dsimp only
      split
      · exact within.scanHandle.bind fun handle _ within => spelled handle within
      · exact spelled "!" within.next

/-! ### Directives -/

/-- The number of a version is read, or its run of digits is too long and stands in the text. -/
theorem scanVersionNumber (within : cursor.Within text) :
    Scans text (scanVersionNumber cursor) := by
  refine .require ?_
  split
  · rename_i long
    have digits : HoldsDigits (cursor.rest.takeWhile Char.isDigit).length text :=
      ⟨long, _, (List.takeWhile_prefix _).isInfix.trans within.isInfix, rfl,
        List.all_eq_true.mp List.all_takeWhile⟩
    rintro _ ⟨⟩
    exact .digits digits
  · exact .ok (within.span _)

/-- A version is two numbers, so that either of them may be too long. -/
theorem scanVersion (within : cursor.Within text) : Scans text (scanVersion cursor) :=
  within.skipSpaces.scanVersionNumber.bind fun _ _ within =>
    .require (within.next.scanVersionNumber.bind fun _ _ within => .require (.ok within))

theorem scanHandleDirective (within : cursor.Within text) :
    Scans text (scanHandleDirective cursor) :=
  within.skipSpaces.scanHandle.bind fun _ _ within =>
    .require (within.skipSpaces.scanTagText.bind fun _ _ within => .require (.ok within))

/-- A directive is read and what follows on its line is a comment at most, or one of its numbers is
too long. -/
theorem scanDirective (within : cursor.Within text) : Scans text (scanDirective cursor) := by
  have named := within.next.span isWord
  refine .require (Scans.bind ?_ fun directive cursor within => ?_)
  · split
    · exact named.scanVersion
    · exact named.scanHandleDirective
    · exact .ok (named.skipWhile _)
  · dsimp only
    split
    · rename_i found
      exact .ok (within.restOfLine found)
    · exact .malformed

end Cursor.Within

end EntryPoint.Document.Yaml
