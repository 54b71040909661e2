/-
# Printed match statements read back

A match statement is printed as the line of its subject with the arms one level
further in, each a line of a pattern with a block behind it. The words that open
these lines are no reserved words, so that only their place tells what they mean.

## Main definitions

* `ArmsWritten` - lines and tokens stand for arms.

## Main results

* `ArmsWritten.one`, `ArmsWritten.cons` - how arms are put together.
* `matchBlock_written` - a match statement.
-/

import EntryPoint.Proofs.Syntax.Definitions
import EntryPoint.Proofs.Syntax.Patterns

namespace EntryPoint.Syntax

open Reader Text

variable {level height depth blockDepth : Nat} {pattern : Pattern} {subject : Expr}
  {stmts : List Stmt} {arms : List (MatchArm (List Stmt))} {shown : String}
  {lines lines' : List String} {tokens tokens' inner rest : List Token}

/-! ### Arms -/

/-- The arm with a pattern and a block. -/
def armOf (pattern : Pattern) (body : List Stmt) : MatchArm (List Stmt) :=
  { pattern, body }

/-- The tokens of an arm. -/
def armTokens (tokens inner : List Token) : List Token :=
  .name "case" true :: tokens ++ [.symbol ":"] ++ .newline :: .indent :: inner ++ [.dedent]

/-- Lines at a level and their tokens stand for one or more arms. -/
structure ArmsWritten (arms : List (MatchArm (List Stmt))) (level height : Nat)
    (lines : List String) (tokens : List Token) : Prop where
  prints : armLines level arms = .ok lines
  tokenizes : Tokenizes level (closedLines lines) tokens
  nonempty : arms ≠ []
  reads : ∀ depth blockDepth, height ≤ depth → height ≤ blockDepth → ∀ rest,
    Repeats (arm? (Grammar.ofDepth (depth + 1)) (depth + 1) (blockAt depth blockDepth))
      (tokens ++ .dedent :: rest) arms (.dedent :: rest)

theorem armLines_cons (written : pattern.Written height shown tokens)
    (body : BodyWritten stmts (level + 1) height lines inner)
    (others : armLines level arms = .ok lines') :
    armLines level (armOf pattern stmts :: arms) =
      .ok (lineAt level ("case " ++ shown ++ ":") :: lines ++ lines') := by
  rw [armOf, armLines, written.prints, body.prints, others]
  simp [printOption, bind, Except.bind, pure, Except.pure]

theorem tokenizes_arm (small : level + 1 < maxIndentations)
    (written : pattern.Written height shown tokens) (room : height ≤ maxBrackets)
    (body : BodyWritten stmts (level + 1) height lines inner) :
    Tokenizes level (closedLines (lineAt level ("case " ++ shown ++ ":") :: lines))
      (armTokens tokens inner) := by
  have line : Line ("case " ++ shown ++ ":") (.name "case" true :: tokens ++ [.symbol ":"]) :=
    .beforeBlock (StartsWord.append ⟨'c', _, rfl, rfl, by decide⟩ shown)
      (.behind "case" rfl (by decide) (by decide) (written.spells.before rfl))
      (.cons (fun _ => rfl) (written.nests.mono room))
  simpa [closedLines, closedLine, armTokens] using Tokenizes.block small line body.tokenizes

/-- What follows the word that opens an arm. -/
theorem arm?_case {grammar : Grammar} {patternDepth : Nat} {block : Reader (List Stmt)} :
    arm? grammar patternDepth block (.name "case" true :: rest) = (do
      let pattern ← topPattern grammar patternDepth
      let guard ← if ← word? "if" then some <$> namedExpression grammar else pure none
      return some { pattern, guard, body := ← Syntax.body block } : Reader _) rest :=
  rfl

theorem arm?_of_written (written : pattern.Written height shown tokens)
    (body : BodyWritten stmts (level + 1) height lines inner) (room : height ≤ depth)
    (room' : height ≤ blockDepth) (rest : List Token) :
    arm? (Grammar.ofDepth (depth + 1)) (depth + 1) (blockAt depth (blockDepth + 1))
      (armTokens tokens inner ++ rest) = some (some (armOf pattern stmts), rest) := by
  -- The arm is read up to its dedent: pattern, no guard, and the body as a block of its own.
  have form : armTokens tokens inner ++ rest = .name "case" true ::
      (tokens ++ .symbol ":" :: .newline :: .indent :: (inner ++ .dedent :: rest)) := by
    simp [armTokens]
  rw [form, arm?_case, bind_of_eq (written.topPattern room),
    ite_of_false (word?_of_head?_ne (by simp)), bind_of_eq (run_pure _ _)]
  exact bind_of_eq (body_of_bodyWritten body room room')

namespace ArmsWritten

theorem one (small : level + 1 < maxIndentations) (written : pattern.Written height shown tokens)
    (room : height ≤ maxBrackets) (body : BodyWritten stmts (level + 1) height lines inner) :
    ArmsWritten [armOf pattern stmts] level (height + 1)
      (lineAt level ("case " ++ shown ++ ":") :: lines) (armTokens tokens inner) where
  prints := by
    have nothing : armLines level [] = .ok [] := by rw [armLines]
    simpa using armLines_cons written body nothing
  tokenizes := tokenizes_arm small written room body
  nonempty := by simp
  reads depth blockDepth deep deep' rest := by
    obtain ⟨blockDepth, rfl⟩ := Nat.exists_eq_succ_of_ne_zero (Nat.ne_zero_of_lt deep')
    refine .more (arm?_of_written written body (Nat.le_of_succ_le deep)
      (Nat.le_of_succ_le_succ deep') _) ?_ (.stop rfl)
    simp only [armTokens, List.length_append, List.length_cons]
    omega

/-- Arms one after the other. -/
theorem cons (small : level + 1 < maxIndentations) (written : pattern.Written height shown tokens)
    (room : height ≤ maxBrackets) (body : BodyWritten stmts (level + 1) height lines inner)
    (others : ArmsWritten arms level (height + 1) lines' tokens') :
    ArmsWritten (armOf pattern stmts :: arms) level (height + 1)
      (lineAt level ("case " ++ shown ++ ":") :: lines ++ lines')
      (armTokens tokens inner ++ tokens') where
  prints := armLines_cons written body others.prints
  tokenizes := by
    rw [closedLines, List.flatMap_append]
    exact (tokenizes_arm small written room body).append others.tokenizes
  nonempty := by simp
  reads depth blockDepth deep deep' rest := by
    have behind := others.reads depth blockDepth deep deep' rest
    obtain ⟨blockDepth, rfl⟩ := Nat.exists_eq_succ_of_ne_zero (Nat.ne_zero_of_lt deep')
    rw [List.append_assoc]
    refine .more (arm?_of_written written body (Nat.le_of_succ_le deep)
      (Nat.le_of_succ_le_succ deep') _) ?_ behind
    simp only [armTokens, List.length_append, List.length_cons]
    omega

end ArmsWritten

/-! ### Match statements -/

/-- A match statement. -/
theorem matchBlock_written (small : level + 1 < maxIndentations)
    (written : subject.Written height shown tokens) (room : height ≤ maxBrackets)
    (made : ArmsWritten arms (level + 1) height lines inner) :
    (Stmt.matchBlock subject arms).Written level height
      (lineAt level ("match " ++ shown ++ ":") :: lines)
      (.name "match" true :: tokens ++ [.symbol ":"] ++
        .newline :: .indent :: inner ++ [.dedent]) where
  prints := by
    rw [Stmt.lines, Expr.text, written.prints, made.prints]
    rfl
  tokenizes := by
    have line : Line ("match " ++ shown ++ ":") (.name "match" true :: tokens ++ [.symbol ":"]) :=
      .beforeBlock (StartsWord.append ⟨'m', _, rfl, rfl, by decide⟩ shown)
        (.behind "match" rfl (by decide) (by decide) (written.spells.before rfl))
        (.cons (fun _ => rfl) (written.nests.mono room))
    simpa [closedLines, closedLine] using Tokenizes.block small line made.tokenizes
  opens := ⟨_, _, rfl, by simp⟩
  reads depth blockDepth deep deep' rest := by
    have form : .name "match" true :: tokens ++ [.symbol ":"] ++
        .newline :: .indent :: inner ++ [.dedent] ++ rest = .name "match" true ::
      (tokens ++ .symbol ":" :: .newline :: .indent :: (inner ++ .dedent :: rest)) := by simp
    -- The subject is a single item, so no tuple is made of it.
    have item : element (Grammar.ofDepth (depth + 1)) (tokens ++ .symbol ":" :: .newline ::
        .indent :: (inner ++ .dedent :: rest)) = some (subject, .symbol ":" :: .newline ::
        .indent :: (inner ++ .dedent :: rest)) := written.element deep rfl (by simp)
    have some := List.length_pos_iff.mpr written.ne_nil
    have items := commaItems_of_items
      (.last item (by simp only [List.length_append]; omega) (by simp))
    have read : matchStatement (Grammar.ofDepth (depth + 1)) (depth + 1) (blockAt depth blockDepth)
        (.name "match" true :: (tokens ++ .symbol ":" :: .newline :: .indent ::
          (inner ++ .dedent :: rest))) = .some (.matchBlock subject arms, rest) := by
      rw [matchStatement, bind_of_eq expect_self, run_bind, Syntax.subject, bind_of_eq items]
      dsimp only
      rw [written.unstarred, Bool.not_false, bind_of_eq (require_true _), run_pure]
      dsimp only [Option.bind_some]
      rw [bind_of_eq symbol_self, bind_of_eq expect_self, bind_of_eq expect_self,
        bind_of_eq (repeatedly_of_repeats (made.reads depth blockDepth deep deep' rest)),
        List.isEmpty_eq_false_iff.mpr made.nonempty, Bool.not_false, bind_of_eq (require_true _),
        bind_of_eq expect_self]
      rfl
    rw [form, statement, bind_of_eq peek?_cons]
    -- The word may also be a name; the statement is tried first, and here it succeeds.
    show ((fun stmt => [stmt]) <$> matchStatement _ _ _ <|> simpleLine _) _ = _
    rw [run_orElse, run_map, read]
    rfl

end EntryPoint.Syntax
