/-
# Texts within markup

Only an opening bracket makes a tag, so that what stands between tags is shown as
it is. The tags of a style are in order wherever they stand: the first one opens the
style, and one with a slash before its name closes it again.

## Main definitions

* `Console.IsTagContent` - a text that makes a tag between brackets.
* `Console.IsStyleName` - a name of a style that may stand in tags.

## Main results

* `Console.piecesFrom_bracket`, `Console.piecesFrom_cons_of_not_bracket` - one step of a reading.
* `Console.piecesFrom_tag`, `Console.piecesFrom_append` - pieces one after the other.
* `Console.exists_styleOf_of_word` - styles of one word can be read.
* `Console.IsStyleName.exists_shownText`, `Console.IsStyleName.exists_close` - what the tags of a
  style do.
* `Console.exists_close_nil` - nothing is closed where nothing is open.
-/

import EntryPoint.Console
import Mathlib.Data.List.TakeWhile

namespace EntryPoint.Console

open Text

variable {text content rest before name label inside : List Char} {c : Char}
  {opened : List Opened} {fuel : ℕ}

/-! ### Pieces -/

/-- A text that makes a tag when it stands between brackets. -/
structure IsTagContent (content : List Char) : Prop where
  opens : ∃ c rest, content = c :: rest ∧ opensTag c
  inside : ∀ c ∈ content, c ≠ ']' ∧ c ≠ '['

instance (content : List Char) : Decidable (IsTagContent content) :=
  match content with
  | [] => isFalse fun ⟨⟨_, _, same, _⟩, _⟩ => by cases same
  | c :: rest =>
    decidable_of_iff (opensTag c ∧ (c :: rest).all fun d => d ≠ ']' && d ≠ '[')
      ⟨fun ⟨opens, inside⟩ => ⟨⟨c, rest, rfl, opens⟩, fun d member => by
          simpa using List.all_eq_true.mp inside d member⟩,
        fun ⟨⟨_, _, same, opens⟩, inside⟩ => by
          cases same
          exact ⟨opens, List.all_eq_true.mpr fun d member => by simpa using inside d member⟩⟩

theorem tagContent?_append (tag : IsTagContent content) (rest : List Char) :
    tagContent? (content ++ ']' :: rest) = some (content, rest) := by
  obtain ⟨⟨c, behind, rfl, opens⟩, inside⟩ := tag
  have inside := (List.forall_mem_cons.mp inside).2
  have taken : (behind ++ ']' :: rest).takeWhile (fun c => c ≠ ']' && c ≠ '[') = behind := by
    rw [List.takeWhile_append_of_pos fun d member => by simpa using inside d member]
    simp
  rw [List.cons_append, tagContent?]
  simp only [opens, taken]
  simp

theorem piecesFrom_nil : piecesFrom fuel before [] = [.shown (unescape before.reverse)] := by
  cases fuel <;> rfl

/-- A bracket behind some backslashes opens a tag, or stands for itself. -/
theorem piecesFrom_bracket (count : ℕ) :
    piecesFrom (fuel + 1) before (List.replicate count '\\' ++ '[' :: inside) =
      match tagContent? inside with
      | some (content, after) =>
        .shown (unescape before.reverse) :: tagPieces count content ++ piecesFrom fuel [] after
      | none => piecesFrom fuel ('[' :: List.replicate count '\\' ++ before) inside := by
  obtain ⟨c, rest, split⟩ := List.exists_cons_of_ne_nil (l := List.replicate count '\\' ++
    '[' :: inside) (by simp)
  have taken : ((List.replicate count '\\' ++ '[' :: inside).takeWhile (· = '\\')).length =
      count := by
    rw [List.takeWhile_append_of_pos (by simp)]
    simp
  have dropped : (List.replicate count '\\' ++ '[' :: inside).drop count = '[' :: inside :=
    List.drop_left' List.length_replicate
  rw [split, piecesFrom, ← split, taken, dropped]
  rfl

/-- All other characters stand for themselves. -/
theorem piecesFrom_cons_of_not_bracket
    (other : ∀ count inside, c :: rest ≠ List.replicate count '\\' ++ '[' :: inside) :
    piecesFrom (fuel + 1) before (c :: rest) = piecesFrom fuel (c :: before) rest := by
  rw [piecesFrom]
  split
  · rename_i inside dropped
    -- What is taken are backslashes only, so a bracket behind them would be the case that is left
    -- out.
    obtain ⟨behind, split⟩ := List.takeWhile_prefix (l := c :: rest) (· = '\\')
    have all := List.all_takeWhile (l := c :: rest) (p := (· = '\\'))
    generalize (c :: rest).takeWhile (· = '\\') = taken at split all dropped
    rw [← split, List.drop_left] at dropped
    have backslashes : taken = List.replicate taken.length '\\' :=
      List.eq_replicate_iff.mpr ⟨rfl, fun d member => by
        simpa using List.all_eq_true.mp all d member⟩
    rw [dropped, backslashes] at split
    exact absurd split.symm (other _ _)
  · rfl

/-- Characters that are neither brackets nor backslashes are outside tags. -/
theorem piecesFrom_append (plain : ∀ c ∈ text, c ≠ '[' ∧ c ≠ '\\') :
    piecesFrom (fuel + text.length) before (text ++ rest) =
      piecesFrom fuel (text.reverse ++ before) rest := by
  induction text generalizing before with
  | nil => rfl
  | cons c text ih =>
    obtain ⟨⟨bracket, backslash⟩, plain⟩ := List.forall_mem_cons.mp plain
    have other (count : ℕ) (inside : List Char) :
        c :: (text ++ rest) ≠ List.replicate count '\\' ++ '[' :: inside := by
      -- A bracket is the case of no backslash, and a backslash that of more.
      intro same
      cases count with
      | zero => exact bracket (List.cons_eq_cons.mp same).1
      | succ count => exact backslash (List.cons_eq_cons.mp same).1
    rw [List.length_cons, ← Nat.add_assoc, List.cons_append, piecesFrom_cons_of_not_bracket other,
      ih plain, List.reverse_cons, List.append_assoc, List.singleton_append]

/-- A text between brackets is a tag. -/
theorem piecesFrom_tag (tag : IsTagContent content) :
    piecesFrom (fuel + 1) before ('[' :: content ++ ']' :: rest) =
      .shown (unescape before.reverse) :: .shown [] :: .ofContent content ::
        piecesFrom fuel [] rest := by
  have bracket : piecesFrom (fuel + 1) before ('[' :: (content ++ ']' :: rest)) = _ :=
    piecesFrom_bracket 0
  rw [tagContent?_append tag] at bracket
  exact bracket

/-! ### Styles -/

/-- Whether or not the table of colours has a word that is no mixed colour, it can be read. -/
theorem colorOf_of_other {word : String} (unmixed : ColorWord.ofParts word.toList = .other) :
    Style.colorOf word = .ok word ∨ Style.colorOf word = .error .unknown := by
  unfold Style.colorOf ColorWord.ofText
  simp only [unmixed]
  split
  · exact .inl rfl
  · rename_i unreadable
    split at unreadable <;> cases unreadable
  · exact .inr rfl

/-- A style of words with a colour that is no mixed one can be read. -/
theorem exists_styleOf_of_colored {text : List Char} {word : String} {style : String → Style}
    (unmixed : ColorWord.ofParts word.toList = .other)
    (read : Style.ofWords (blankWords text) = do return style (← Style.colorOf word)) :
    ∃ style, styleOf text = .ok style := by
  unfold styleOf canonicalStyle?
  rw [read]
  rcases colorOf_of_other unmixed with color | color
  · rw [color]
    exact ⟨_, rfl⟩
  · rw [color]
    exact ⟨_, rfl⟩

/-- A style of one word that is not kept for something else can be read, whether or not the word is
a colour. -/
theorem exists_styleOf_of_word {text : List Char} {word : String} (words : blankWords text = [word])
    (lower : lower word = word) (free : word ∉ ["none", "on", "not", "link"])
    (unfeatured : feature? word = none) (unmixed : ColorWord.ofParts word.toList = .other) :
    ∃ style, styleOf text = .ok style := by
  obtain ⟨none, on, not, link⟩ : word ≠ "none" ∧ word ≠ "on" ∧ word ≠ "not" ∧ word ≠ "link" := by
    simpa using free
  have read : Style.ofWords (blankWords text) = do
      return { color := some (← Style.colorOf word) } := by
    rw [words]
    simp only [Style.ofWords, Style.addWords, List.cons.injEq, none, on, not, link, lower,
      unfeatured, false_and, if_false]
    rfl
  exact exists_styleOf_of_colored unmixed read

/-! ### Tags -/

/-- Texts between tags are shown one after the other. -/
theorem shownText_map_shown (opened : List Opened) (texts : List (List Char)) (rest : List Piece) :
    shownText opened (texts.map .shown ++ rest) =
      (texts.flatMap replaceCodes ++ ·) <$> shownText opened rest := by
  induction texts with
  | nil => exact (id_map (shownText opened rest)).symm
  | cons text texts ih =>
    rw [List.map_cons, List.cons_append, shownText, ih, List.flatMap_cons]
    cases shownText opened rest with
    | error mistake => rfl
    | ok behind => exact congrArg Except.ok (List.append_assoc _ _ _).symm

theorem shownText_shown_nil (opened : List Opened) (rest : List Piece) :
    shownText opened (.shown [] :: rest) = shownText opened rest := by
  rw [shownText]
  cases shownText opened rest <;> rfl

/-- A name of a style as it may stand in an opening and in a closing tag. -/
structure IsStyleName (name : List Char) : Prop where
  opening : IsTagContent name
  closing : IsTagContent ('/' :: name)
  unending : name.head? ≠ some '/'
  bare : '=' ∉ name
  trimmed : trimBlanks name = name
  named : ∃ style, styleOf name = .ok style

theorem ofContent_of_notMem (bare : '=' ∉ name) : Piece.ofContent name = .tag name [] := by
  have all : ∀ c ∈ name, decide (c ≠ '=') = true := fun c member =>
    decide_eq_true fun same => bare (same ▸ member)
  rw [Piece.ofContent, List.takeWhile_eq_self_iff.mpr all, List.dropWhile_eq_nil_iff.mpr all,
    List.drop_nil]

/-- The pieces that a tag before a text is. -/
def openingPieces (name : List Char) : List Piece :=
  [.shown [], .shown [], .tag name []]

theorem IsStyleName.piecesFrom_opening (style : IsStyleName name) (text : List Char) :
    piecesFrom (fuel + 1) [] ('[' :: name ++ ']' :: text) =
      openingPieces name ++ piecesFrom fuel [] text := by
  rw [piecesFrom_tag style.opening, ofContent_of_notMem style.bare]
  rfl

theorem IsStyleName.exists_shownText (style : IsStyleName name) (opened : List Opened) :
    ∃ canonical, styleOf name = .ok canonical ∧ ∀ rest,
      shownText opened (openingPieces name ++ rest) =
        shownText (⟨canonical, []⟩ :: opened) rest := by
  obtain ⟨canonical, named⟩ := style.named
  obtain ⟨⟨c, behind, rfl, -⟩, -⟩ := style.opening
  have other : c ≠ '/' := fun same => style.unending (by rw [same]; rfl)
  refine ⟨canonical, named, fun rest => ?_⟩
  have tag : shownText opened (.tag (c :: behind) [] :: rest) =
      (styleOf (c :: behind) >>= fun name => shownText (⟨name, []⟩ :: opened) rest) := by
    rw [shownText]
    rintro name same
    exact other (List.cons_eq_cons.mp same).1
  rw [openingPieces, List.cons_append, List.cons_append, List.cons_append, List.nil_append,
    shownText_shown_nil, shownText_shown_nil, tag, named]
  rfl

/-- A tag closes the style of its name, or what was opened under the same name after it. -/
theorem IsStyleName.exists_close (style : IsStyleName name) {canonical : String}
    (named : styleOf name = .ok canonical) (member : ⟨canonical, []⟩ ∈ opened)
    (bare : ∀ other ∈ opened, other.parameters = []) :
    ∃ left, Opened.close name opened = .ok left ∧ left.length + 1 = opened.length := by
  obtain ⟨⟨c, behind, rfl, -⟩, -⟩ := style.opening
  -- The style is found by its own name among those that are open.
  have some : (opened.find? (·.name = canonical)).isSome :=
    List.find?_isSome.mpr ⟨_, member, decide_eq_true rfl⟩
  obtain ⟨ended, found⟩ := Option.isSome_iff_exists.mp some
  have inside : ended ∈ opened := List.mem_of_find?_eq_some found
  have parameters : areParameters ended.parameters := by
    rw [bare ended inside]
    decide
  have ends : ended.mayEnd := by simp [Opened.mayEnd, parameters]
  refine ⟨opened.erase ended, ?_, ?_⟩
  · unfold Opened.close
    rw [style.trimmed]
    dsimp only
    rw [named]
    simp [bind, Except.bind, pure, Except.pure, found, ends]
  · rw [List.length_erase_of_mem inside]
    exact Nat.sub_add_cancel (List.length_pos_of_mem inside)

/-- What stands between the tags of a label is shown with nothing left open. -/
theorem IsStyleName.shownText_label (style : IsStyleName name) (rest : List Piece) :
    shownText []
        (openingPieces name ++ .shown label :: .shown [] :: .tag ('/' :: name) [] :: rest) =
      (replaceCodes label ++ ·) <$> shownText [] rest := by
  obtain ⟨canonical, named, shown⟩ := style.exists_shownText []
  have member : (⟨canonical, []⟩ : Opened) ∈ [⟨canonical, []⟩] := List.mem_singleton.mpr rfl
  -- One style is open, and closing it leaves none.
  obtain ⟨left, closed, length⟩ := style.exists_close named member (by simp)
  obtain rfl : left = [] := List.length_eq_zero_iff.mp (Nat.succ.inj length)
  have tag : shownText [⟨canonical, []⟩] (.tag ('/' :: name) [] :: rest) = shownText [] rest := by
    rw [shownText, closed]
    rfl
  rw [shown, shownText, shownText_shown_nil, tag]
  rfl

/-- A closing tag ends nothing where nothing is open. -/
theorem exists_close_nil (name : List Char) : ∃ mistake, Opened.close name [] = .error mistake := by
  unfold Opened.close
  dsimp only
  split
  · exact ⟨.closing, rfl⟩
  · cases styleOf (trimBlanks name) with
    | error mistake => exact ⟨mistake, rfl⟩
    | ok style => exact ⟨.closing, rfl⟩

end EntryPoint.Console
