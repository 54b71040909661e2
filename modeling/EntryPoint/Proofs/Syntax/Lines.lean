/-
# Printed lines read back

A line of an expression, a returned or raised one, or the assignment of one to a
name. A name in front of such a line may be one that opens a match statement
elsewhere; the reader tries that first, fails at what stands behind the name, and
takes the line for what it is.

## Main definitions

* `NoSubject` - tokens that open no match statement.

## Main results

* `expression_simple`, `returnValue_simple`, `raise_simple`, `assign_simple` - the lines.
* `readExpression_of_written` - the text of an expression on its own.
-/

import EntryPoint.Proofs.Syntax.Imports

namespace EntryPoint.Syntax

open Reader Text

variable {height depth patternDepth : Nat} {expr value : Expr} {exprs : List Expr}
  {shown label : String} {texts : List String} {tokens tokens' rest : List Token} {stmt : Stmt}
  {block : Reader (List Stmt)}

/-! ### Expressions on their own -/

theorem starExpressions_of_written (written : expr.Written height shown tokens)
    (room : height ≤ depth) (ends : endsExpression rest) (alone : rest.head? ≠ some (.symbol ",")) :
    starExpressions (Grammar.ofDepth (depth + 1)) (tokens ++ rest) = some (expr, rest) := by
  have nonempty := List.length_pos_iff.mpr written.ne_nil
  have item : starredOr (Grammar.ofDepth (depth + 1)) (Grammar.ofDepth (depth + 1)).expression
      (tokens ++ rest) = .some (expr, rest) := by
    rw [starredOr,
      ite_of_false (symbol?_of_opensPrimary (opensPrimary_append written.opens _) (by decide))]
    exact written.expression room ends
  have items := commaItems_of_items (.last item (by rw [List.length_append]; omega) alone)
  rw [starExpressions, tupleOf, bind_of_eq items]
  rfl

/-- Tokens that open no match statement, where a line ends behind them. -/
def NoSubject (height : Nat) (tokens : List Token) : Prop :=
  ∀ depth, height ≤ depth → ∀ patternDepth block rest others,
    tokens = .name "match" true :: others →
    matchStatement (Grammar.ofDepth (depth + 1)) patternDepth block
      (tokens ++ .newline :: rest) = none

theorem exists_cons_of_opensPrimary (opens : opensPrimary tokens) :
    ∃ first others, tokens = first :: others ∧ first ≠ .dedent := by
  cases tokens with
  | nil => cases opens
  | cons first others =>
    refine ⟨first, others, rfl, ?_⟩
    rintro rfl
    cases opens

theorem statement_of_opensPrimary (opens : opensPrimary tokens)
    (noSubject : NoSubject height tokens) (room : height ≤ depth)
    (read : simpleStatement (Grammar.ofDepth (depth + 1)) (tokens ++ .newline :: rest) =
      some (stmt, .newline :: rest)) :
    statement (Grammar.ofDepth (depth + 1)) patternDepth block (tokens ++ .newline :: rest) =
      some ([stmt], rest) := by
  have line := simpleLine_of_eq read
  have noMatch := noSubject depth room patternDepth block rest
  obtain ⟨first, others, rfl, -⟩ := exists_cons_of_opensPrimary opens
  rw [List.cons_append] at line noMatch ⊢
  rw [statement, bind_of_eq peek?_cons]
  -- Only the word `match` is tried as another statement first, and it finds no subject here.
  by_cases special : first = .name "match" true
  · subst special
    show ((fun stmt => [stmt]) <$> matchStatement _ patternDepth block <|> simpleLine _) _ = _
    rw [run_orElse, run_map, noMatch others rfl]
    exact line
  · refine (congrFun (?_ : _ = simpleLine _) _).trans line
    split
    · rename_i word same
      obtain rfl := Option.some.inj same
      obtain rfl : word = "None" := of_decide_eq_true opens
      rfl
    · rename_i same
      obtain rfl := Option.some.inj same
      cases opens
    · rename_i same
      exact absurd (Option.some.inj same) special
    · rfl

/-- A line that opens with a value and no reserved word. -/
theorem simpleStatement_of_opensPrimary {grammar : Grammar} (opens : opensPrimary tokens) :
    simpleStatement grammar tokens = assignmentOrExpression grammar tokens := by
  have other {word : String} (different : word ≠ "None") := word?_of_opensPrimary opens different
  simp only [simpleStatement]
  iterate 12 rw [ite_of_false (other (by decide))]

theorem Expr.Written.toLine (written : expr.Written height shown tokens)
    (room : height ≤ maxBrackets) : Line shown tokens where
  opens := written.starts
  spells := written.spells.before rfl
  nests := written.nests.mono room

/-- A line of an expression. -/
theorem expression_simple (written : expr.Written height shown tokens)
    (room : height ≤ maxBrackets) (noSubject : NoSubject height tokens) :
    (Stmt.expression expr).Simple height shown tokens where
  prints level := by
    rw [Stmt.lines, written.prints]
    rfl
  line := written.toLine room
  opens := exists_cons_of_opensPrimary written.opens
  reads depth room patternDepth block rest := by
    refine statement_of_opensPrimary written.opens noSubject room ?_
    -- Neither an annotation nor a further target stands behind it, nor an operator that assigns.
    rw [simpleStatement_of_opensPrimary (opensPrimary_append written.opens _),
      assignmentOrExpression, bind_of_eq (written.unbound ":" _ (by decide) (by simp)),
      bind_of_eq (starExpressions_of_written written room rfl (by simp)),
      ite_of_false (symbol?_of_head?_ne (by simp)),
      bind_of_eq (operator?_of_endsExpression rfl (by decide))]
    dsimp only
    rw [bind_of_eq (repeatedly_of_repeats (.stop ?_))]
    · rfl
    · rw [bind_of_eq (symbol?_of_head?_ne (by simp))]
      rfl

theorem printOption_of_written (written : expr.Written height shown tokens) {place : Level}
    {opening : String} : printOption false place opening (some expr) = .ok (opening ++ shown) := by
  rw [printOption, written.prints]
  rfl

/-- A line that returns an expression. -/
theorem returnValue_simple (written : expr.Written height shown tokens)
    (room : height ≤ maxBrackets) :
    (Stmt.returnValue (some expr)).Simple height ("return " ++ shown)
      (.keyword "return" :: tokens) where
  prints level := by
    rw [Stmt.lines, printOption_of_written written]
    simp only [bind, Except.bind, pure, Except.pure]
    rw [← String.append_assoc]
    rfl
  line :=
    { opens := StartsWord.append ⟨'r', _, rfl, rfl, by decide⟩ _
      spells := .behind "return" rfl (by decide) (by decide) (written.spells.before rfl)
      nests := .cons (fun _ => rfl) (written.nests.mono room) }
  opens := ⟨_, _, rfl, by simp⟩
  reads depth room patternDepth block rest := by
    rw [List.cons_append]
    refine statement_of_keyword rfl ?_
    rw [simpleStatement, ite_of_true word?_self,
      bind_of_eq (optionally_of_eq_some (starExpressions_of_written written room rfl (by simp)))]
    rfl

/-- A line that raises an expression. -/
theorem raise_simple (written : expr.Written height shown tokens)
    (room : height ≤ maxBrackets) :
    (Stmt.raise (some expr) none).Simple height ("raise " ++ shown)
      (.keyword "raise" :: tokens) where
  prints level := by
    rw [Stmt.lines, raiseLine, printOption_of_written written, printOption]
    simp only [bind, Except.bind, pure, Except.pure]
    rw [← String.append_assoc, String.append_empty]
    rfl
  line :=
    { opens := StartsWord.append ⟨'r', _, rfl, rfl, by decide⟩ _
      spells := .behind "raise" rfl (by decide) (by decide) (written.spells.before rfl)
      nests := .cons (fun _ => rfl) (written.nests.mono room) }
  opens := ⟨_, _, rfl, by simp⟩
  reads depth room patternDepth block rest := by
    have read := optionally_of_eq_some
      (written.expression room (show endsExpression (.newline :: rest) = true from rfl))
    rw [List.cons_append]
    refine statement_of_keyword rfl ?_
    rw [simpleStatement, ite_of_false (word?_of_head?_ne (by simp)),
      ite_of_false (word?_of_head?_ne (by simp)), ite_of_false (word?_of_head?_ne (by simp)),
      ite_of_true word?_self, raiseRest, bind_of_eq read]
    dsimp only
    rw [bind_of_eq (word?_of_head?_ne (by simp))]
    rfl

theorem noSubject_of_ne (other : label ≠ "match") :
    NoSubject height (.name label true :: tokens) := by
  intro _ _ _ _ _ others same
  exact absurd (Token.name.inj (List.cons.inj same).1).1 other

/-- A line that assigns an expression to a name. -/
theorem assign_simple (isName : IsName label) (other : label ≠ "match")
    (written : expr.Written height shown tokens) (room : height ≤ maxBrackets) :
    (Stmt.assign [.name label] expr).Simple height (label ++ " = " ++ shown)
      (.name label true :: .symbol "=" :: tokens) where
  prints level := by
    simp only [Stmt.lines, List.mapM_cons, List.mapM_nil, Expr.print, Expr.text, written.prints,
      bind, Except.bind, pure, Except.pure]
    rw [String.join_cons, String.join_nil, String.append_empty]
  line :=
    { opens := (isName.startsWord.append _).append _
      spells := by
        intro rest lexemes lexed
        have equals : Lexes false ('=' :: ' ' :: (shown.toList ++ '\n' :: rest))
            (.token (.symbol "=") :: (tokens.map .token ++ lexemes)) :=
          .equals (by simp) (written.spells _ lexemes rfl lexed).blank
        simpa using Lexes.name isName rfl equals.blank
      nests := .cons (fun _ => rfl) (.cons (fun _ => rfl) (written.nests.mono room)) }
  opens := ⟨_, _, rfl, by simp⟩
  reads depth room patternDepth block rest := by
    have target : starExpressions (Grammar.ofDepth (depth + 1))
        (.name label true :: .symbol "=" :: (tokens ++ .newline :: rest)) =
        some (.name label, .symbol "=" :: (tokens ++ .newline :: rest)) :=
      starExpressions_of_written (.name isName) (Nat.zero_le _) rfl (by simp)
    have source : yieldOrStarExpressions (Grammar.ofDepth (depth + 1))
        (tokens ++ .newline :: rest) = some (expr, .newline :: rest) := by
      rw [yieldOrStarExpressions,
        ite_of_false (word?_of_opensPrimary (opensPrimary_append written.opens _) (by decide))]
      exact starExpressions_of_written written room rfl (by simp)
    refine statement_of_opensPrimary rfl ?_ room ?_
    · exact noSubject_of_ne other
    · simp only [List.cons_append]
      rw [simpleStatement_of_opensPrimary rfl, assignmentOrExpression,
        bind_of_eq (show nextIsNameBefore ":" _ = some (false, _) from rfl), bind_of_eq target,
        ite_of_false (symbol?_of_head?_ne (by simp)),
        bind_of_eq (operator?_of_endsExpression rfl (by decide))]
      dsimp only
      rw [bind_of_eq (repeatedly_of_repeats (.more ?_ ?_ (.stop ?_)))]
      · rfl
      · rw [ite_of_true symbol?_self, bind_of_eq source]
        rfl
      · simp only [List.length_append, List.length_cons]
        omega
      · rw [bind_of_eq (symbol?_of_head?_ne (by simp))]
        rfl

/-! ### What opens no match statement -/

/-- The attribute of a name opens no match statement. -/
theorem noSubject_of_point : NoSubject height (.name label true :: .symbol "." :: tokens) := by
  intro depth _ patternDepth block rest others same
  -- A point opens no value, so the subject is not read.
  obtain ⟨same, -⟩ := List.cons.inj same
  have element : element (Grammar.ofDepth (depth + 1))
      (.symbol "." :: (tokens ++ .newline :: rest)) = none := by
    rw [element, starredOr, ite_of_false (symbol?_of_head?_ne (by simp)), namedExpression,
      ite_of_false (show nextIsNameBefore ":=" _ = some (false, _) from rfl)]
    exact expression_eq_none (.inl rfl)
  have items : commaItems (Syntax.element (Grammar.ofDepth (depth + 1)))
      (.symbol "." :: (tokens ++ .newline :: rest)) = none := by
    rw [commaItems, List.length_cons, commaItemsUpTo, run_bind, element, Option.bind_none]
  rw [same, List.cons_append, List.cons_append, matchStatement, bind_of_eq expect_self, run_bind,
    subject, run_bind, items]
  rfl

theorem parenthesized_of_listed (listed : Listed height exprs texts tokens) (rest : List Token)
    (room : height ≤ depth) :
    ∃ value, parenthesized (Grammar.ofDepth (depth + 1)) (tokens ++ .symbol ")" :: rest) =
      some (value, rest) := by
  cases listed with
  | none => exact ⟨_, rfl⟩
  | some separated =>
    have opens := opensPrimary_append separated.opens (.symbol ")" :: rest)
    have read := separated.elements rest room (.inl rfl)
    rw [parenthesized, ite_of_false (symbol?_of_opensPrimary opens (by decide)),
      ite_of_false (word?_of_opensPrimary opens (by decide)), run_bind, display_of_eq read rfl]
    match exprs, separated.unstarred with
    | [], _ | _ :: _ :: _, _ => exact ⟨_, rfl⟩
    | [only], unstarred =>
      have unstarred := unstarred only (.head _)
      exact ⟨only, by simp [unstarred, run_bind]⟩

/-- The call of a name opens no match statement. -/
theorem noSubject_of_call (listed : Listed height exprs texts tokens) :
    NoSubject (height + 1)
      (.name label true :: .symbol "(" :: tokens ++ [.symbol ")"]) := by
  intro depth room patternDepth block rest others same
  obtain ⟨depth, rfl⟩ := Nat.exists_eq_succ_of_ne_zero (Nat.ne_zero_of_lt room)
  obtain ⟨same, -⟩ := List.cons.inj same
  -- The arguments would be read as a subject in parentheses, and then no colon follows.
  obtain ⟨value, enclosed⟩ := parenthesized_of_listed listed (.newline :: rest)
    (Nat.le_of_succ_le_succ room)
  have atom : atom (Grammar.ofDepth (depth + 1))
      (.symbol "(" :: (tokens ++ .symbol ")" :: .newline :: rest)) =
      some (value, .newline :: rest) := enclosed
  have primary : primary (Grammar.ofDepth (depth + 1))
      (.symbol "(" :: (tokens ++ .symbol ")" :: .newline :: rest)) =
      some (value, .newline :: rest) := by
    rw [primary, bind_of_eq atom]
    exact iterate_of_steps (.stop (trailer_of_endsExpression rfl))
  have element : element (Grammar.ofDepth (depth + 2))
      (.symbol "(" :: (tokens ++ .symbol ")" :: .newline :: rest)) =
      some (value, .newline :: rest) := by
    rw [element, starredOr, ite_of_false (symbol?_of_head?_ne (by simp)), namedExpression,
      ite_of_false (show nextIsNameBefore ":=" _ = some (false, _) from rfl)]
    exact expression_of_primary rfl primary rfl
  have items : commaItems (Syntax.element (Grammar.ofDepth (depth + 2)))
      (.symbol "(" :: (tokens ++ .symbol ")" :: .newline :: rest)) =
      some (([value], false), .newline :: rest) :=
    commaItems_of_items
      (.last element (by simp only [List.length_cons, List.length_append]; omega) (by simp))
  have form : .name label true :: .symbol "(" :: tokens ++ [.symbol ")"] ++ .newline :: rest =
      .name label true :: .symbol "(" :: (tokens ++ .symbol ")" :: .newline :: rest) := by simp
  rw [form, same, matchStatement, bind_of_eq expect_self, run_bind, subject, bind_of_eq items]
  dsimp only
  cases value.isStarred with
  | true => rfl
  | false => rw [Bool.not_false, bind_of_eq (require_true _)]; rfl

/-! ### Texts of expressions -/

/-- A text on its own has the tokens of its words: it is one line without a break. -/
theorem tokenize_of_written (written : expr.Written height shown tokens)
    (room : height ≤ maxBrackets) :
    tokenize shown.toList = some tokens ∧ ∀ c ∈ shown.toList, isKept c := by
  obtain ⟨c, others, same, opens, -⟩ := written.starts
  have spelled := written.spells [] [] rfl .nil
  rw [List.append_nil, List.append_nil] at spelled
  have lexed : Lexes true shown.toList (.lineStart (indentationAt 0) :: tokens.map .token) := by
    rw [same] at spelled ⊢
    exact @Lexes.line _ _ _ 0 opens spelled
  have laid := written.nests (openAt 0) 0 [] (by rwa [Nat.zero_add])
  rw [List.append_nil] at laid
  refine ⟨?_, spelled.kept⟩
  rw [tokenize, lexed.lexemes_eq, Option.bind_some]
  exact (layout_lineStart_self 0 _).trans (laid.trans (by simp [layout]))

/-- The text of an expression is read as the expression. -/
theorem readExpression_of_written (written : expr.Written height shown tokens)
    (room : height ≤ maxBrackets) (deep : height ≤ shown.toList.length + 1) :
    readExpression shown = .ok expr := by
  obtain ⟨tokenized, kept⟩ := tokenize_of_written written room
  have noNull : shown.toList.contains '\x00' = false := by
    refine Bool.eq_false_iff.mpr fun null => ?_
    cases kept _ (List.contains_iff_mem.mp null)
  have nonempty := List.length_pos_iff.mpr written.ne_nil
  have whole : (Grammar.ofDepth (shown.toList.length + 2)).expression (tokens ++ []) =
      some (expr, []) := written.expression deep rfl
  rw [List.append_nil] at whole
  have read : expressions (Grammar.ofDepth (depthFor shown.toList)) tokens = some (expr, []) := by
    rw [depthFor, expressions, tupleOf,
      bind_of_eq (commaItems_of_items (.last whole nonempty (by simp)))]
    rfl
  rw [readExpression, noNull, if_neg Bool.false_ne_true, unifyBreaks_of_kept kept]
  dsimp only
  rw [tokenized, Option.bind_some, runAll, expressionAndBreaks, bind_of_eq read]
  rfl

end EntryPoint.Syntax
