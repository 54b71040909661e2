/-
# Printed lines as tokens

Printed lines stand four blanks deeper for each block around them, so that the
indentations that are open at a line are those of all outer levels. A line leaves
its words, whose brackets are closed again, and its break; a block leaves the
tokens of its lines between an indent and a dedent. The dedents come with the next
line further out, or with the end of the text.

## Main definitions

* `Nests` - tokens whose brackets match, up to a depth.
* `openAt` - the indentations that are open at a level.
* `Line` - a text that can stand on a line.
* `Tokenizes` - lines at a level become given tokens.

## Main results

* `Tokenizes.line`, `Tokenizes.block`, `Tokenizes.append` - how lines are put together.
* `Tokenizes.tokenize_eq` - the tokens of a whole text.
-/

import EntryPoint.Proofs.Syntax.Lexing
import EntryPoint.Syntax.Printer.Statement
import EntryPoint.Syntax.Token.Layout

namespace EntryPoint.Syntax

open Text

variable {height height' level outer : Nat} {tokens tokens' : List Token} {spelled : Token}
  {written : String} {text text' : List Char}

/-! ### Brackets -/

/-- Tokens whose brackets are closed again and nest no deeper than a height. -/
def Nests (height : Nat) (tokens : List Token) : Prop :=
  ∀ opened depth lexemes, depth + height ≤ maxBrackets →
    layout opened depth (tokens.map .token ++ lexemes) =
      (layout opened depth lexemes).map (tokens ++ ·)

namespace Nests

theorem nil : Nests height [] := by
  intro opened depth lexemes room
  simp

theorem mono (nests : Nests height tokens) (le : height ≤ height') : Nests height' tokens :=
  fun opened depth lexemes room => nests opened depth lexemes (by omega)

theorem append (first : Nests height tokens) (second : Nests height tokens') :
    Nests height (tokens ++ tokens') := by
  intro opened depth lexemes room
  rw [List.map_append, List.append_assoc, first _ _ _ room, second _ _ _ room, Option.map_map]
  simp [Function.comp_def]

/-- A token that is no bracket. -/
theorem single (level : ∀ depth, depthAfter depth spelled = depth) : Nests height [spelled] := by
  intro opened depth lexemes room
  rw [List.map_singleton, List.singleton_append, layout, level, if_pos (by omega)]
  rfl

/-- A token that is no bracket leaves the depth as it is. -/
theorem cons (level : ∀ depth, depthAfter depth spelled = depth) (nests : Nests height tokens) :
    Nests height (spelled :: tokens) :=
  (single level).append nests

/-- Tokens between brackets. -/
theorem enclosed {opening closing : Token} (opens : ∀ depth, depthAfter depth opening = depth + 1)
    (closes : ∀ depth, depthAfter (depth + 1) closing = depth) (nests : Nests height tokens) :
    Nests (height + 1) (opening :: tokens ++ [closing]) := by
  intro opened depth lexemes room
  simp only [List.cons_append, List.map_cons, List.map_append, List.append_assoc, List.map_nil,
    List.nil_append]
  -- Between the brackets the depth is one more, which the height of the whole has room for.
  rw [layout, opens, if_pos (by omega), nests _ _ _ (by omega), layout, closes,
    if_pos (by omega)]
  simp only [Option.map_map, Function.comp_def]

end Nests

/-! ### Levels -/

/-- The indentation of a level. -/
def indentationAt (level : Nat) : Indentation :=
  ⟨4 * level, 4 * level⟩

/-- Lines of deeper levels are indented further, measured in either way. -/
theorem wide_lt_iff : (indentationAt level).wide < (indentationAt outer).wide ↔ level < outer := by
  simp only [indentationAt]
  omega

theorem narrow_lt_iff :
    (indentationAt level).narrow < (indentationAt outer).narrow ↔ level < outer := by
  simp only [indentationAt]
  omega

/-- The indentations that are open at a level: its own, and those of all levels around it. -/
def openAt : Nat → List Indentation
  | 0 => [indentationAt 0]
  | level + 1 => indentationAt (level + 1) :: openAt level

theorem length_openAt : (openAt level).length = level + 1 := by
  induction level with
  | zero => rfl
  | succ level ih => rw [openAt, List.length_cons, ih]

theorem openAt_eq_cons (level : Nat) : ∃ others, openAt level = indentationAt level :: others := by
  cases level with
  | zero => exact ⟨[], rfl⟩
  | succ level => exact ⟨_, rfl⟩

/-- A line further in opens a block. -/
theorem openLine_succ (small : level + 1 < maxIndentations) :
    openLine (indentationAt (level + 1)) (openAt level) = some ([.indent], openAt (level + 1)) := by
  have length : (openAt level).length < maxIndentations := by rw [length_openAt]; exact small
  obtain ⟨others, same⟩ := openAt_eq_cons level
  rw [openAt]
  rw [same] at length ⊢
  -- Both widths of the indentation grow, as no tabs are printed.
  rw [openLine, if_pos (wide_lt_iff.mpr (Nat.lt_succ_self level)),
    if_pos ⟨narrow_lt_iff.mpr (Nat.lt_succ_self level), length⟩]

/-- A line at the level or further out closes the blocks in between. -/
theorem openLine_of_le (le : outer ≤ level) :
    openLine (indentationAt outer) (openAt level) =
      closeBlocks (indentationAt outer) (openAt level) := by
  obtain ⟨others, same⟩ := openAt_eq_cons level
  rw [same, openLine, if_neg (mt wide_lt_iff.mp (Nat.not_lt.mpr le))]

/-- A line of the same level closes no block. -/
theorem closeBlocks_self :
    closeBlocks (indentationAt level) (openAt level) = some ([], openAt level) := by
  obtain ⟨others, same⟩ := openAt_eq_cons level
  rw [same, closeBlocks, if_neg (Nat.lt_irrefl _), if_pos rfl]

/-- A line further out closes one block for each level. -/
theorem closeBlocks_succ (le : outer ≤ level) :
    closeBlocks (indentationAt outer) (openAt (level + 1)) =
      (closeBlocks (indentationAt outer) (openAt level)).map
        fun (tokens, opened) => (.dedent :: tokens, opened) := by
  rw [openAt, closeBlocks, if_pos (wide_lt_iff.mpr (Nat.lt_succ_of_le le))]

/-- A line opens or closes blocks by its indentation, and the others follow. -/
theorem layout_lineStart {opened : List Indentation} {indentation : Indentation}
    {lexemes : List Lexeme} :
    layout opened 0 (.lineStart indentation :: lexemes) =
      (openLine indentation opened).bind fun (tokens, opened) =>
        (layout opened 0 lexemes).map (tokens ++ ·) := by
  rw [layout, if_pos rfl]
  cases openLine indentation opened with
  | none => rfl
  | some entered =>
    simp only [Option.bind_eq_bind, Option.bind_some]
    cases layout entered.2 0 lexemes <;> rfl

theorem layout_lineStart_self (level : Nat) (lexemes : List Lexeme) :
    layout (openAt level) 0 (.lineStart (indentationAt level) :: lexemes) =
      layout (openAt level) 0 lexemes := by
  rw [layout_lineStart, openLine_of_le (Nat.le_refl _), closeBlocks_self]
  simp

/-- A line of the next level opens a block. -/
theorem layout_lineStart_succ {lexemes : List Lexeme} (small : level + 1 < maxIndentations) :
    layout (openAt level) 0 (.lineStart (indentationAt (level + 1)) :: lexemes) =
      (layout (openAt (level + 1)) 0 lexemes).map (.indent :: ·) := by
  rw [layout_lineStart, openLine_succ small]
  rfl

/-- Seen from a block, a line outside of it stands behind a dedent. -/
theorem layout_lineStart_outer {lexemes : List Lexeme} (le : outer ≤ level) :
    layout (openAt (level + 1)) 0 (.lineStart (indentationAt outer) :: lexemes) =
      (layout (openAt level) 0 (.lineStart (indentationAt outer) :: lexemes)).map
        (.dedent :: ·) := by
  rw [layout_lineStart, layout_lineStart, openLine_of_le le, openLine_of_le (by omega),
    closeBlocks_succ le]
  cases closeBlocks (indentationAt outer) (openAt level) with
  | none => rfl
  | some closed => simp [Function.comp_def]

/-! ### Lines -/

/-- Lines at a level become tokens. Their lexemes open with the start of a line, and the tokens stay
the same whatever line at the level or further out stands behind them. -/
def Tokenizes (level : Nat) (text : List Char) (tokens : List Token) : Prop :=
  ∃ lexemes, (∀ rest following, Lexes true rest following →
      Lexes true (text ++ rest) (.lineStart (indentationAt level) :: lexemes ++ following)) ∧
    ∀ outer ≤ level, ∀ following,
      layout (openAt level) 0 (lexemes ++ .lineStart (indentationAt outer) :: following) =
        (layout (openAt level) 0 (.lineStart (indentationAt outer) :: following)).map (tokens ++ ·)

/-- A text opens with a word that is no equality sign. -/
def StartsWord (text : String) : Prop :=
  ∃ c others, text.toList = c :: others ∧ opensWord c ∧ c ≠ '='

theorem StartsWord.append {text : String} (starts : StartsWord text) (more : String) :
    StartsWord (text ++ more) := by
  obtain ⟨c, others, same, opens⟩ := starts
  exact ⟨c, others ++ more.toList, by simp [same], opens⟩

/-- A text that starts with a word does not go on with the sign of an assignment. -/
theorem StartsWord.head?_ne {text : String} (starts : StartsWord text) (rest : List Char) :
    (text.toList ++ rest).head? ≠ some '=' := by
  obtain ⟨c, others, same, -, other⟩ := starts
  rw [same]
  exact fun equal => other (Option.some.inj equal)

theorem IsName.startsWord {label : String} (isName : IsName label) : StartsWord label := by
  obtain ⟨first, others, same, letter, -⟩ :=
    exists_eq_cons_of_isIdentifier (isIdentifier_of_isBindable isName.bindable)
  refine ⟨first, others, same, opensWord_of_isWordCharacter letter, ?_⟩
  rintro rfl
  cases letter

/-- A text that can stand on a line: it opens with a word, is read as tokens, and closes its
brackets. -/
structure Line (line : String) (tokens : List Token) : Prop where
  opens : StartsWord line
  spells : SpellsBefore '\n' line tokens
  nests : Nests maxBrackets tokens

/-- The characters of a line at a level with its break. -/
def closedLine (level : Nat) (line : String) : List Char :=
  (lineAt level line).toList ++ ['\n']

/-- A line is read as its indentation, its tokens and its break. -/
theorem Line.lexes (made : Line written tokens) {rest : List Char} {following : List Lexeme}
    (lexed : Lexes true rest following) :
    Lexes true (closedLine level written ++ rest)
      (.lineStart (indentationAt level) :: (tokens.map .token ++ .lineBreak :: following)) := by
  obtain ⟨c, others, same, opens, -⟩ := made.opens
  have spelled := made.spells rest (.lineBreak :: following) lexed.lineBreak
  rw [same] at spelled
  have blanks : closedLine level written ++ rest =
      List.replicate (4 * level) ' ' ++ c :: (others ++ '\n' :: rest) := by
    simp [closedLine, lineAt, indentation, same]
  rw [blanks]
  exact .line opens spelled

/-- Within a line nothing is laid out, as all its brackets are closed before the break. -/
theorem Line.layout (made : Line written tokens) {opened : List Indentation}
    {following : List Lexeme} :
    layout opened 0 (tokens.map .token ++ .lineBreak :: following) =
      (Syntax.layout opened 0 following).map (tokens ++ .newline :: ·) := by
  rw [made.nests _ _ _ (by decide), Syntax.layout, if_pos rfl, Option.map_map]
  rfl

namespace Tokenizes

theorem line (made : Line written tokens) :
    Tokenizes level (closedLine level written) (tokens ++ [.newline]) := by
  refine ⟨tokens.map .token ++ [.lineBreak], fun rest following lexed => ?_,
    fun outer le following => ?_⟩
  · simpa using made.lexes lexed
  · rw [List.append_assoc, List.singleton_append, made.layout]
    simp

/-- A blank line adds no tokens. -/
theorem blankLine (body : Tokenizes level text tokens) :
    Tokenizes level ('\n' :: text) tokens := by
  obtain ⟨lexemes, lexes, layout⟩ := body
  exact ⟨lexemes, fun rest following lexed => (lexes rest following lexed).blankLine, layout⟩

theorem append (first : Tokenizes level text tokens) (second : Tokenizes level text' tokens') :
    Tokenizes level (text ++ text') (tokens ++ tokens') := by
  obtain ⟨lexemes, lexes, layouts⟩ := first
  obtain ⟨lexemes', lexes', layouts'⟩ := second
  refine ⟨lexemes ++ .lineStart (indentationAt level) :: lexemes',
    fun rest following lexed => ?_, fun outer le following => ?_⟩
  · rw [List.append_assoc]
    simpa using lexes _ _ (lexes' _ _ lexed)
  · rw [List.append_assoc, List.cons_append, layouts _ (Nat.le_refl _), layout_lineStart_self,
      layouts' _ le, Option.map_map]
    simp [Function.comp_def]

/-- A line with a block behind it. -/
theorem block (small : level + 1 < maxIndentations) (head : Line written tokens)
    (body : Tokenizes (level + 1) text tokens') :
    Tokenizes level (closedLine level written ++ text)
      (tokens ++ .newline :: .indent :: tokens' ++ [.dedent]) := by
  obtain ⟨lexemes, lexes, layouts⟩ := body
  refine ⟨tokens.map .token ++ .lineBreak :: .lineStart (indentationAt (level + 1)) :: lexemes,
    fun rest following lexed => ?_, fun outer le following => ?_⟩
  · rw [List.append_assoc]
    simpa using head.lexes (lexes _ _ lexed)
  -- The block is opened behind the head, and the line behind it closes the block.
  · rw [List.append_assoc, List.cons_append, head.layout, List.cons_append,
      layout_lineStart_succ small, layouts _ (by omega), layout_lineStart_outer le]
    simp [Function.comp_def]

/-- The tokens of a whole text, none of whose characters is replaced before it is read. -/
theorem tokenize_eq (module : Tokenizes 0 text tokens) :
    tokenize text = some tokens ∧ ∀ c ∈ text, isKept c := by
  obtain ⟨lexemes, lexes, layouts⟩ := module
  have lexed := lexes [] _ .finish
  have laid := layouts 0 (Nat.le_refl 0) []
  rw [List.append_nil] at lexed
  refine ⟨?_, lexed.kept⟩
  rw [tokenize, lexed.lexemes_eq, Option.bind_some]
  have finished := layout_lineStart_self 0 []
  rw [finished] at laid
  have started := layout_lineStart_self 0
    (lexemes ++ [.lineStart (indentationAt 0)])
  exact (started.trans laid).trans (by simp [layout])

end Tokenizes

end EntryPoint.Syntax
