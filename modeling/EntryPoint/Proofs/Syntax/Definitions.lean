/-
# Printed definitions read back

A function is printed as a blank line, its head, and its body one level further in.
Its body is read where the blocks inside are one fewer, so each level asks for one
place more.

## Main definitions

* `Marked` - a text and its tokens stand for an expression behind a mark, or for none.
* `Parameters.Written` - the same for the parameters of a function.
* `definitionLine`, `definitionTokens` - the head of a function.

## Main results

* `Parameters.Written.one` - a single parameter.
* `functionDef_written` - a function with one or more statements.
-/

import EntryPoint.Proofs.Syntax.Lines

namespace EntryPoint.Syntax

open Reader Text

variable {level height depth : Nat} {expr? type default returns : Option Expr}
  {parameters : Parameters Expr} {opening mark shown shown' label : String}
  {tokens tokens' rest : List Token}

/-! ### Lines before a block -/

/-- A text that a colon follows can stand on the line in front of a block. -/
theorem Line.beforeBlock (opens : StartsWord shown) (spells : SpellsBefore ':' shown tokens)
    (nests : Nests maxBrackets tokens) : Line (shown ++ ":") (tokens ++ [.symbol ":"]) where
  opens := opens.append ":"
  spells rest lexemes lexed := by
    simpa using spells _ _ (Lexes.colon (by simp) lexed)
  nests := nests.append (.single fun _ => rfl)

/-! ### Expressions behind a mark -/

/-- A text and its tokens stand for an expression behind a mark, or for none. -/
inductive Marked (height : Nat) (opening mark : String) :
    Option Expr → String → List Token → Prop
  | absent : Marked height opening mark none "" []
  | present {expr : Expr} {text : String} {tokens : List Token}
    (written : expr.Written height text tokens) :
    Marked height opening mark (some expr) (opening ++ text) (.symbol mark :: tokens)

namespace Marked

theorem prints (marked : Marked height opening mark expr? shown tokens) (place : Level) :
    printOption false place opening expr? = .ok shown := by
  cases marked with
  | absent => rw [printOption]
  | present written => exact printOption_of_written written

/-- The mark ends the word in front of it, and no equality sign makes it longer. -/
theorem spells (marked : Marked height opening mark expr? shown tokens)
    (lexes : ∀ {text lexemes}, text.head? ≠ some '=' → Lexes false text lexemes →
      Lexes false (opening.toList ++ text) (.token (.symbol mark) :: lexemes))
    (apart : ∀ text, endsWord (opening.toList ++ text)) {text : List Char} {lexemes : List Lexeme}
    (ends : endsWord text) (lexed : Lexes false text lexemes) :
    Lexes false (shown.toList ++ text) (tokens.map .token ++ lexemes) ∧
      endsWord (shown.toList ++ text) := by
  cases marked with
  | absent => exact ⟨lexed, ends⟩
  | present written =>
    have inside := written.spells text lexemes ends lexed
    rw [String.toList_append, List.append_assoc]
    -- An expression starts a word, so no equality sign stands behind the mark.
    exact ⟨lexes (written.starts.head?_ne text) inside, apart _⟩

theorem nests (marked : Marked height opening mark expr? shown tokens)
    (flat : ∀ depth, depthAfter depth (.symbol mark) = depth) : Nests height tokens := by
  cases marked with
  | absent => exact .nil
  | present written => exact .cons flat written.nests

/-- What stands behind the mark or its place. -/
theorem endsExpression_append (marked : Marked height opening mark expr? shown tokens)
    (closes : mark ∈ closingSymbols) (ends : endsExpression rest) :
    endsExpression (tokens ++ rest) := by
  cases marked with
  | absent => exact ends
  | present written => exact List.contains_iff_mem.mpr closes

end Marked

/-! ### Parameters -/

/-- A text and its tokens stand for the parameters of a function. -/
structure Parameters.Written (height : Nat) (parameters : Parameters Expr) (text : String)
    (tokens : List Token) : Prop where
  prints : printParameters false parameters = .ok text
  spells : Spells text tokens
  nests : Nests height tokens
  reads : ∀ depth, height ≤ depth → ∀ rest,
    Syntax.parameters (Grammar.ofDepth (depth + 1)) true ")" (tokens ++ .symbol ")" :: rest) =
      some (parameters, .symbol ")" :: rest)

/-- One parameter with its annotation and its default. -/
theorem Parameters.Written.one (isName : IsName label)
    (annotated : Marked height ": " ":" type shown tokens)
    (defaulted : Marked height "=" "=" default shown' tokens') :
    Parameters.Written height { regular := [{ name := label, annotation := type, default }] }
      (label ++ shown ++ shown') (.name label true :: (tokens ++ tokens')) where
  prints := by
    simp only [printParameters, printParameterList, printParameter, printParameterOption,
      annotated.prints, defaulted.prints, bind, Except.bind, pure, Except.pure]
    simp [Parameters.arrange, commas]
  spells rest lexemes ends lexed := by
    -- From the end on: the default, the annotation and then the name.
    obtain ⟨lexed, ends⟩ := defaulted.spells (fun apart lexed => lexed.equals apart)
      (fun _ => rfl) ends lexed
    have colon {text : List Char} {lexemes : List Lexeme} (lexed : Lexes false text lexemes) :
        Lexes false (':' :: ' ' :: text) (.token (.symbol ":") :: lexemes) :=
      .colon (by simp) lexed.blank
    obtain ⟨lexed, ends⟩ := annotated.spells (fun _ lexed => colon lexed) (fun _ => rfl)
      ends lexed
    simpa using Lexes.name isName ends lexed
  nests := .cons (fun _ => rfl)
    ((annotated.nests fun _ => rfl).append (defaulted.nests fun _ => rfl))
  reads depth room rest := by
    have item : parameterItem (Grammar.ofDepth (depth + 1)) true
        (.name label true :: (tokens ++ tokens' ++ .symbol ")" :: rest)) =
        some (.plain { name := label, annotation := type, default }, .symbol ")" :: rest) := by
      -- Behind the annotation stands the default or the end of the parameters.
      have behind : endsExpression (tokens' ++ .symbol ")" :: rest) :=
        defaulted.endsExpression_append (by decide) rfl
      have apart : (tokens' ++ .symbol ")" :: rest).head? ≠ some (.symbol ":") := by
        cases defaulted <;> simp
      have typed : annotation? true (Grammar.ofDepth (depth + 1)).expression
          (tokens ++ (tokens' ++ .symbol ")" :: rest)) =
          some (type, tokens' ++ .symbol ")" :: rest) := by
        cases annotated with
        | absent =>
          rw [annotation?, if_pos rfl, List.nil_append, bind_of_eq (symbol?_of_head?_ne apart)]
          rfl
        | present written =>
          rw [annotation?, if_pos rfl, List.cons_append, ite_of_true symbol?_self, run_map,
            written.expression room behind]
          rfl
      -- It opens with a name: neither a star nor a slash sets it apart from the regular parameters.
      rw [List.append_assoc, parameterItem, ite_of_false (symbol?_of_head?_ne (by simp)),
        ite_of_false (symbol?_of_head?_ne (by simp)), ite_of_false (symbol?_of_head?_ne (by simp)),
        bind_of_eq (name_cons label true), bind_of_eq typed]
      cases defaulted with
      | absent => exact bind_of_eq (symbol?_of_head?_ne (by simp))
      | present written =>
        rw [List.cons_append, ite_of_true symbol?_self, run_bind, run_map,
          written.expression room rfl]
        rfl
    have items := commaItems_singleton item (by simp)
    rw [Syntax.parameters, List.cons_append,
      bind_of_eq (show nextIsSymbol [")"] _ = some (false, _) from rfl), if_neg Bool.false_ne_true,
      bind_of_eq items]
    cases defaulted <;> rfl

/-! ### Heads -/

/-- The words that open a function. -/
def definitionOpening (isAsync : Bool) : String :=
  if isAsync then "async def " else "def "

/-- The head of a function in front of its colon. -/
def definitionHead (isAsync : Bool) (label parameters returns : String) : String :=
  definitionOpening isAsync ++ label ++ "(" ++ parameters ++ ")" ++ returns

/-- The tokens of the head of a function. -/
def definitionTokens (isAsync : Bool) (label : String) (parameters returns : List Token) :
    List Token :=
  (if isAsync then [.keyword "async"] else []) ++
    .keyword "def" :: .name label true :: (.symbol "(" :: parameters ++ [.symbol ")"]) ++ returns

theorem spells_definitionName (isName : IsName label)
    (written : Parameters.Written height parameters shown tokens)
    (returned : Marked height " -> " "->" returns shown' tokens') :
    SpellsBefore ':' (label ++ "(" ++ shown ++ ")" ++ shown')
      (.name label true :: (.symbol "(" :: tokens ++ [.symbol ")"]) ++ tokens') := by
  intro rest lexemes lexed
  have arrow {text : List Char} {lexemes : List Lexeme} (lexed : Lexes false text lexemes) :
      Lexes false (' ' :: '-' :: '>' :: ' ' :: text) (.token (.symbol "->") :: lexemes) :=
    lexed.blank.arrow.blank
  obtain ⟨lexed, ends⟩ := returned.spells (fun _ lexed => arrow lexed) (fun _ => rfl) rfl lexed
  have closing : Lexes false (')' :: (shown'.toList ++ ':' :: rest))
      (.token (.symbol ")") :: (tokens'.map .token ++ lexemes)) := .lone (by decide) lexed
  have opening : Lexes false ('(' :: (shown.toList ++ ')' :: (shown'.toList ++ ':' :: rest)))
      (.token (.symbol "(") :: (tokens.map .token ++ .token (.symbol ")") ::
        (tokens'.map .token ++ lexemes))) :=
    .lone (by decide) (written.spells _ _ rfl closing)
  simpa using Lexes.name isName rfl opening

theorem spells_definitionHead (isAsync : Bool) (isName : IsName label)
    (written : Parameters.Written height parameters shown tokens)
    (returned : Marked height " -> " "->" returns shown' tokens') :
    SpellsBefore ':' (definitionHead isAsync label shown shown')
      (definitionTokens isAsync label tokens tokens') := by
  have synchronous : SpellsBefore ':' ("def " ++ (label ++ "(" ++ shown ++ ")" ++ shown'))
      (.keyword "def" :: (.name label true :: (.symbol "(" :: tokens ++ [.symbol ")"]) ++
        tokens')) :=
    .behind "def" rfl (by decide) (by decide) (spells_definitionName isName written returned)
  have asynchronous : SpellsBefore ':' ("async " ++ _) (.keyword "async" :: _) :=
    .behind "async" rfl (by decide) (by decide) synchronous
  cases isAsync with
  | false =>
    simpa [definitionHead, definitionOpening, definitionTokens, String.append_assoc] using
      synchronous
  | true =>
    have joined : "async def " = "async " ++ "def " := rfl
    have head : definitionHead true label shown shown' =
        "async " ++ ("def " ++ (label ++ "(" ++ shown ++ ")" ++ shown')) := by
      simp only [definitionHead, definitionOpening, if_true, joined, String.append_assoc]
    rw [head]
    exact asynchronous

theorem nests_definitionTokens (isAsync : Bool) (label : String)
    (written : Parameters.Written height parameters shown tokens)
    (returned : Marked height " -> " "->" returns shown' tokens') :
    Nests (height + 1) (definitionTokens isAsync label tokens tokens') := by
  have enclosed : Nests (height + 1) (.symbol "(" :: tokens ++ [.symbol ")"]) :=
    written.nests.enclosed (fun _ => rfl) fun _ => rfl
  have behind := (returned.nests fun _ => rfl).mono (Nat.le_succ height)
  have named : Nests (height + 1) (.keyword "def" :: .name label true ::
      (.symbol "(" :: tokens ++ [.symbol ")"]) ++ tokens') :=
    (Nests.cons (fun _ => rfl) (.cons (fun _ => rfl) enclosed)).append behind
  cases isAsync with
  | false => exact named
  | true => exact .cons (fun _ => rfl) named

theorem definition_line (isAsync : Bool) (isName : IsName label)
    (written : Parameters.Written height parameters shown tokens)
    (returned : Marked height " -> " "->" returns shown' tokens') (room : height < maxBrackets) :
    Line (definitionHead isAsync label shown shown' ++ ":")
      (definitionTokens isAsync label tokens tokens' ++ [.symbol ":"]) := by
  refine .beforeBlock ?_ (spells_definitionHead isAsync isName written returned)
    ((nests_definitionTokens isAsync label written returned).mono room)
  have starts : StartsWord (definitionOpening isAsync) := by
    cases isAsync
    · exact ⟨'d', _, rfl, rfl, by decide⟩
    · exact ⟨'a', _, rfl, rfl, by decide⟩
  exact ((((starts.append _).append _).append _).append _).append _

/-! ### Functions -/

/-- What follows the word that opens a function. -/
theorem functionRest_of_written (label : String) (isAsync : Bool) {body : List Stmt}
    {block : Reader (List Stmt)}
    (written : Parameters.Written height parameters shown tokens)
    (returned : Marked height " -> " "->" returns shown' tokens') (room : height ≤ depth)
    {out : List Token} (read : Syntax.body block (.symbol ":" :: rest) = some (body, out)) :
    functionRest (Grammar.ofDepth (depth + 1)) block isAsync []
      (.name label true :: .symbol "(" :: (tokens ++ .symbol ")" ::
        (tokens' ++ .symbol ":" :: rest))) =
      some (.functionDef { isAsync, name := label, parameters, returns } body, out) := by
  rw [functionRest, bind_of_eq (name_cons label true), bind_of_eq symbol_self,
    bind_of_eq (written.reads depth room _), bind_of_eq symbol_self]
  cases returned with
  | absent =>
    rw [List.nil_append, ite_of_false (symbol?_of_head?_ne (by simp)), bind_of_eq (run_pure _ _)]
    exact bind_of_eq read
  | present written =>
    rw [List.cons_append, ite_of_true symbol?_self, run_bind, run_map, written.expression room rfl]
    exact bind_of_eq read

/-- The word that opens a function, alone or behind another one. -/
theorem compoundStatement_of_functionRest {isAsync : Bool} {stmt : Stmt} {grammar : Grammar}
    {block : Reader (List Stmt)} {out : List Token}
    (read : functionRest grammar block isAsync [] tokens = some (stmt, out)) :
    compoundStatement grammar block
      ((if isAsync then [.keyword "async"] else []) ++ .keyword "def" :: tokens) =
        some (stmt, out) := by
  have other {first : Token} {rest : List Token} {text : String}
      (different : first ≠ .keyword text) :
      word? text (first :: rest) = some (false, first :: rest) :=
    word?_of_head?_ne (by simpa using different)
  cases isAsync with
  | false =>
    simp only [Bool.false_eq_true, if_false, List.nil_append]
    rw [compoundStatement]
    -- None of the words that open other blocks stands here, and no decorator.
    iterate 6 rw [ite_of_false (other (by simp))]
    rw [ite_of_false (show nextIsSymbol ["@"] _ = some (false, _) from rfl), definition,
      ite_of_false (other (by simp)), bind_of_eq (other (by simp)), bind_of_eq word_self]
    exact read
  | true =>
    simp only [if_true, List.cons_append, List.nil_append]
    rw [compoundStatement]
    -- `async` is tried behind the words that open other blocks.
    iterate 5 rw [ite_of_false (other (by simp))]
    rw [ite_of_true word?_self, asyncRest, ite_of_true word?_self]
    exact read

theorem statement_of_compoundStatement {text : String} {stmt : Stmt} {grammar : Grammar}
    {patternDepth : Nat} {block : Reader (List Stmt)} {out : List Token}
    (compound : compoundWords.contains text)
    (read : compoundStatement grammar block (.keyword text :: tokens) = some (stmt, out)) :
    statement grammar patternDepth block (.keyword text :: tokens) = some ([stmt], out) := by
  rw [statement, bind_of_eq peek?_cons]
  dsimp only
  rw [if_pos compound, bind_of_eq read]
  rfl

/-- A function is printed behind a blank line. -/
theorem functionDef_written (isAsync : Bool) {stmt : Stmt} {stmts : List Stmt}
    {lines : List String} {inner : List Token} (isName : IsName label)
    (small : level + 1 < maxIndentations)
    (written : Parameters.Written height parameters shown tokens)
    (returned : Marked height " -> " "->" returns shown' tokens') (room : height < maxBrackets)
    (body : BodyWritten (stmt :: stmts) (level + 1) height lines inner)
    (plain : stmt.isText = false) :
    (Stmt.functionDef { isAsync, name := label, parameters, returns } (stmt :: stmts)).Written
      level (height + 1)
      ("" :: lineAt level (definitionHead isAsync label shown shown' ++ ":") :: lines)
      (definitionTokens isAsync label tokens tokens' ++ [.symbol ":"] ++
        .newline :: .indent :: inner ++ [.dedent]) where
  prints := by
    rw [Stmt.lines, documentedLines_eq plain, body.prints]
    simp only [FunctionHead.lines, decoratorLines, List.mapM_nil, written.prints, returned.prints,
      bind, Except.bind, pure, Except.pure]
    rfl
  tokenizes := by
    have line := definition_line isAsync isName written returned room
    simpa [closedLines, closedLine] using (Tokenizes.block small line body.tokenizes).blankLine
  opens := by
    cases isAsync
    · exact ⟨_, _, rfl, by simp⟩
    · exact ⟨_, _, rfl, by simp⟩
  reads depth blockDepth room room' rest := by
    obtain ⟨blockDepth, rfl⟩ := Nat.exists_eq_succ_of_ne_zero (Nat.ne_zero_of_lt room')
    have inside : Syntax.body (blockAt depth (blockDepth + 1))
        (.symbol ":" :: .newline :: .indent :: (inner ++ .dedent :: rest)) =
        some (stmt :: stmts, rest) :=
      body_of_bodyWritten body (Nat.le_of_succ_le room) (Nat.le_of_succ_le_succ room')
    have read := compoundStatement_of_functionRest <|
      functionRest_of_written label isAsync written returned (Nat.le_of_succ_le room) inside
    cases isAsync with
    | false => simpa [definitionTokens] using statement_of_compoundStatement rfl read
    | true => simpa [definitionTokens] using statement_of_compoundStatement rfl read

end EntryPoint.Syntax
