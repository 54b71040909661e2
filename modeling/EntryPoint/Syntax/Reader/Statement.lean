/-
# Reading statements

A line holds simple statements between semicolons; a compound statement has a
head, a colon and a block. The reader of the blocks inside is handed to the
readers of compound statements, and blocks of growing depth tie the knot.

## Main definitions

* `simpleStatement` - a statement without block.
* `compoundStatement` - a statement with blocks.
* `blockOfDepth` - the blocks of a depth.
* `readExpression`, `readModule` - from a text to its tree.
-/

import EntryPoint.Syntax.Reader.Pattern

namespace EntryPoint.Syntax

open Reader

section

variable (grammar : Grammar)

/-! ### Assignments -/

/-- The operators of assignments that change their target. -/
def assignmentOperators : List (String × BinaryOperator) :=
  [("+=", .add), ("-=", .sub), ("*=", .mul), ("@=", .matMul), ("/=", .div), ("%=", .mod),
    ("&=", .bitAnd), ("|=", .bitOr), ("^=", .bitXor), ("<<=", .shiftLeft), (">>=", .shiftRight),
    ("**=", .pow), ("//=", .floorDiv)]

/-- An assignment of the last of several expressions to all others. -/
def assignmentOf (first : Expr) (rest : List Expr) : Reader Stmt :=
  match (first :: rest).reverse with
  | value :: targets => do
    require (targets.all (·.isTarget true))
    return .assign targets.reverse value
  | [] => failure

/-- An assignment, or an expression alone. -/
def assignmentOrExpression : Reader Stmt := do
  -- The tree tells a bare name from one in parentheses, which reads as the same expression.
  let isBare ← nextIsNameBefore ":"
  let first ← starExpressions grammar
  if ← symbol? ":" then
    require first.isSingleTarget
    let annotation ← grammar.expression
    let value ← if ← symbol? "=" then some <$> yieldOrStarExpressions grammar else pure none
    return .annAssign first annotation value isBare
  else
    match ← operator? assignmentOperators with
    | some operator => do
      require first.isSingleTarget
      return .augAssign first operator (← yieldOrStarExpressions grammar)
    | none => do
      let rest ← repeatedly do
        if ← symbol? "=" then return some (← yieldOrStarExpressions grammar) else return none
      if rest.isEmpty then return .expression first else assignmentOf first rest

/-! ### Imports -/

/-- Names joined by points. -/
def dottedName : Reader String := do
  let first ← name
  let rest ← repeatedly do
    if ← symbol? "." then return some (← name) else return none
  return ".".intercalate (first :: rest)

/-- An imported name with the name that it is bound to. -/
def importAlias (imported : Reader String) : Reader Alias := do
  let label ← imported
  if ← word? "as" then return { name := label, asName := some (← name) }
  else return { name := label }

/-- The points in front of a relative import. -/
def leadingPoints : Reader Nat := do
  let points ← repeatedly do
    if ← symbol? "." then return some 1
    else if ← symbol? "..." then return some 3
    else return none
  return points.foldl (· + ·) 0

/-- The names that are imported from a module. -/
def importedNames : Reader (List Alias) := do
  if ← symbol? "*" then return [{ name := "*" }]
  else if ← symbol? "(" then
    let (names, _) ← commaItems (importAlias name)
    symbol ")"
    return names
  else strictItems (importAlias name)

/-- What follows the word `from`. -/
def importFromRest : Reader Stmt := do
  let level ← leadingPoints
  let isBare ← if level = 0 then pure false else word? "import"
  if isBare then return .importFrom none (← importedNames) level
  else
    let source ← dottedName
    word "import"
    return .importFrom (some source) (← importedNames) level

/-! ### Simple statements -/

/-- What follows the word `raise`. -/
def raiseRest : Reader Stmt := do
  match ← optionally grammar.expression with
  | none => return .raise none none
  | some exception => do
    let cause ← if ← word? "from" then some <$> grammar.expression else pure none
    return .raise (some exception) cause

/-- What follows the word `assert`. -/
def assertRest : Reader Stmt := do
  let test ← grammar.expression
  let message ← if ← symbol? "," then some <$> grammar.expression else pure none
  return .assertion test message

/-- A statement without block. -/
def simpleStatement : Reader Stmt := do
  if ← word? "return" then return .returnValue (← optionally (starExpressions grammar))
  else if ← word? "import" then return .importModules (← strictItems (importAlias dottedName))
  else if ← word? "from" then importFromRest
  else if ← word? "raise" then raiseRest grammar
  else if ← word? "pass" then return .pass
  else if ← word? "del" then return .delete (← commaItems (plainTarget grammar false)).1
  else if ← word? "yield" then return .expression (← yieldRest grammar)
  else if ← word? "assert" then assertRest grammar
  else if ← word? "break" then return .breakLoop
  else if ← word? "continue" then return .continueLoop
  else if ← word? "global" then return .globalNames (← strictItems name)
  else if ← word? "nonlocal" then return .nonlocalNames (← strictItems name)
  else assignmentOrExpression grammar

/-- Statements without block up to the end of their line. -/
def simpleLine : Reader (List Stmt) := do
  let first ← simpleStatement grammar
  let rest ← repeatedly do
    -- The last statement may have a semicolon behind it.
    if ← symbol? ";" then optionally (simpleStatement grammar) else return none
  expect .newline
  return first :: rest

/-! ### Compound statements -/

variable (depth : Nat) (block : Reader (List Stmt))

/-- A colon and the block behind it. -/
def body : Reader (List Stmt) := do
  symbol ":"
  block

/-- The block behind a word, if the word is next. -/
def bodyAfter (text : String) : Reader (List Stmt) := do
  if ← word? text then body block else return []

/-- What follows the word `if`. -/
def branchRest : Reader Stmt := do
  let test ← namedExpression grammar
  let first ← body block
  -- Each `elif` is a branch in the `else` of the one before.
  let others ← repeatedly do
    if ← word? "elif" then
      let test ← namedExpression grammar
      return some (test, ← body block)
    else return none
  let orElse ← bodyAfter block "else"
  return .branch test first
    (others.foldr (fun (test, body) orElse => [.branch test body orElse]) orElse)

/-- What follows the word `while`. -/
def whileRest : Reader Stmt := do
  let test ← namedExpression grammar
  let first ← body block
  return .whileLoop test first (← bodyAfter block "else")

/-- What follows the word `for`. -/
def forRest (isAsync : Bool) : Reader Stmt := do
  let target ← loopTargets grammar
  word "in"
  let source ← starExpressions grammar
  let first ← body block
  return .forLoop isAsync target source first (← bodyAfter block "else")

/-- An item of a `with` statement. -/
def withItem : Reader WithItem := do
  let context ← grammar.expression
  if ← word? "as" then return { context, target := some (← starTarget grammar) }
  else return { context }

/-- Items between parentheses that a colon follows. -/
def enclosedItems : Reader (List WithItem) := do
  symbol "("
  let (items, _) ← commaItems (withItem grammar)
  symbol ")"
  require (← nextIsSymbol [":"])
  return items

/-- What follows the word `with`. Parentheses enclose the items where they can. -/
def withRest (isAsync : Bool) : Reader Stmt := do
  let items ← enclosedItems grammar <|> strictItems (withItem grammar)
  return .withBlock isAsync items (← body block)

/-- One exception handler, if there is one, and whether it bears a star. -/
def handler? : Reader (Option (Bool × Handler (List Stmt))) := do
  if ← word? "except" then
    if ← nextIsSymbol [":"] then return some (false, { body := ← body block })
    else
      let isStar ← symbol? "*"
      let type ← grammar.expression
      let label ← if ← word? "as" then some <$> name else pure none
      return some (isStar, { type := some type, name := label, body := ← body block })
  else return none

/-- What follows the word `try`. The handlers bear stars all or none. -/
def tryRest : Reader Stmt := do
  let first ← body block
  let handlers ← repeatedly (handler? grammar block)
  let isStar := handlers.any (·.1)
  require (!isStar || handlers.all (·.1))
  let orElse ← if handlers.isEmpty then pure [] else bodyAfter block "else"
  let final ← bodyAfter block "finally"
  require (!handlers.isEmpty || !final.isEmpty)
  return .tryBlock isStar first (handlers.map (·.2)) orElse final

/-- What follows the word `def`. -/
def functionRest (isAsync : Bool) (decorators : List Expr) : Reader Stmt := do
  let label ← name
  symbol "("
  let parameters ← parameters grammar true ")"
  symbol ")"
  let returns ← if ← symbol? "->" then some <$> grammar.expression else pure none
  return .functionDef { isAsync, name := label, parameters, decorators, returns } (← body block)

/-- What follows the word `class`. -/
def classRestOf (decorators : List Expr) : Reader Stmt := do
  let label ← name
  let (bases, keywords) ← if ← symbol? "(" then arguments grammar false else pure ([], [])
  return .classDef { name := label, bases, keywords, decorators } (← body block)

/-- The decorators in front of a definition. -/
def decorators : Reader (List Expr) :=
  repeatedly do
    if ← symbol? "@" then
      let value ← namedExpression grammar
      expect .newline
      return some value
    else return none

/-- A definition behind its decorators. -/
def definition (decorators : List Expr) : Reader Stmt := do
  if ← word? "class" then classRestOf grammar block decorators
  else
    let isAsync ← word? "async"
    word "def"
    functionRest grammar block isAsync decorators

/-- What follows the word `async`. -/
def asyncRest : Reader Stmt := do
  if ← word? "def" then functionRest grammar block true []
  else if ← word? "with" then withRest grammar block true
  else
    word "for"
    forRest grammar block true

/-- One arm of a match statement, if there is one. -/
def arm? : Reader (Option (MatchArm (List Stmt))) := do
  match ← peek? with
  | some (.name "case" true) => do
    let _ ← next
    let pattern ← topPattern grammar depth
    let guard ← if ← word? "if" then some <$> namedExpression grammar else pure none
    return some { pattern, guard, body := ← body block }
  | _ => return none

/-- The subject of a match statement. -/
def subject : Reader Expr := do
  match ← commaItems (element grammar) with
  | ([only], false) => do
    require (!only.isStarred)
    return only
  | (items, _) => return .tuple items

/-- A match statement. -/
def matchStatement : Reader Stmt := do
  expect (.name "match" true)
  let subject ← subject grammar
  symbol ":"
  expect .newline
  expect .indent
  let arms ← repeatedly (arm? grammar depth block)
  require (!arms.isEmpty)
  expect .dedent
  return .matchBlock subject arms

/-- A statement with blocks. -/
def compoundStatement : Reader Stmt := do
  if ← word? "if" then branchRest grammar block
  else if ← word? "while" then whileRest grammar block
  else if ← word? "for" then forRest grammar block false
  else if ← word? "with" then withRest grammar block false
  else if ← word? "try" then tryRest grammar block
  else if ← word? "async" then asyncRest grammar block
  else if ← nextIsSymbol ["@"] then definition grammar block (← decorators grammar)
  else definition grammar block []

/-- The reserved words that open statements with blocks. -/
def compoundWords : List String :=
  ["if", "while", "for", "with", "try", "async", "def", "class"]

/-- A statement with blocks, or a line of statements without. The word `match` opens either. -/
def statement : Reader (List Stmt) := do
  match ← peek? with
  | some (.keyword text) =>
    if compoundWords.contains text then return [← compoundStatement grammar block]
    else simpleLine grammar
  | some (.symbol "@") => return [← compoundStatement grammar block]
  | some (.name "match" true) =>
    -- What cannot be read as a match statement is one that starts with the name `match`.
    ((fun stmt => [stmt]) <$> matchStatement grammar depth block) <|> simpleLine grammar
  | _ => simpleLine grammar

/-- Statements up to the end of a block or of the module. -/
def statements : Reader (List Stmt) := do
  let lists ← repeatedly do
    match ← peek? with
    | none | some .dedent => return none
    | some _ => return some (← statement grammar depth block)
  return lists.flatten

/-- The rest of a line, or indented lines below it. -/
def blockAround : Reader (List Stmt) := do
  if ← accept .newline then
    expect .indent
    let result ← statements grammar depth block
    expect .dedent
    return result
  else simpleLine grammar

end

/-- The blocks of a depth. -/
def blockOfDepth (grammar : Grammar) (patternDepth : Nat) : Nat → Reader (List Stmt)
  | 0 => failure
  | depth + 1 => blockAround grammar patternDepth (blockOfDepth grammar patternDepth depth)

/-! ### Texts -/

/-- Why a text has no tree. -/
inductive ReadError
  | nullCharacter
  | malformed
  deriving DecidableEq

/-- The depth that suffices for a text: every inner place lies behind a character of its own. -/
def depthFor (text : List Char) : Nat :=
  text.length + 2

/-- An expression and the breaks behind it. -/
def expressionAndBreaks (grammar : Grammar) : Reader Expr := do
  let value ← expressions grammar
  let _ ← repeatedly do
    if ← accept .newline then return some () else return none
  return value

/-- The expression that a text spells. -/
def readExpression (text : String) : Except ReadError Expr :=
  if text.toList.contains '\x00' then .error .nullCharacter
  else
    let text := unifyBreaks text.toList
    let grammar := Grammar.ofDepth (depthFor text)
    match (tokenize text).bind (runAll (expressionAndBreaks grammar)) with
    | some value => .ok value
    | none => .error .malformed

/-- The statements that a text spells. -/
def readModule (text : String) : Except ReadError (List Stmt) :=
  if text.toList.contains '\x00' then .error .nullCharacter
  else
    let text := closeLastLine (unifyBreaks text.toList)
    let depth := depthFor text
    let grammar := Grammar.ofDepth depth
    let block := blockOfDepth grammar depth depth
    match (tokenize text).bind (runAll (statements grammar depth block)) with
    | some body => .ok body
    | none => .error .malformed

end EntryPoint.Syntax
