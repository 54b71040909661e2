/-
# Reading expressions

Each way to bind operators has a reader of its own that hands over to the next
tighter one; the tightest, an atom, opens brackets and starts anew inside them.
A `Grammar` gathers the readers that such an inner place needs, and grammars of
growing depth tie the knot: a place of some depth uses the grammar of one less.

## Main definitions

* `Grammar` - the readers of an inner place.
* `grammarAround` - the readers around an inner place.
* `Grammar.ofDepth` - the grammar of a depth.
* `expressions`, `starExpressions`, `namedExpression` - what statements are made of.
-/

import EntryPoint.Syntax.Literal.Parts
import EntryPoint.Syntax.Reader.Basic
import EntryPoint.Syntax.Token.Layout

namespace EntryPoint.Syntax

open Reader

/-- The readers of expressions at an inner place. A field is read from its characters. -/
structure Grammar where
  expression : Reader Expr
  disjunction : Reader Expr
  inversion : Reader Expr
  bitOr : Reader Expr
  factor : Reader Expr
  primary : Reader Expr
  field : List Char → Option Expr

section

variable (inner : Grammar)

/-! ### Named, starred and listed expressions -/

/-- An expression, or a name bound to one. -/
def namedExpression : Reader Expr := do
  if ← nextIsNameBefore ":=" then
    let target ← name
    symbol ":="
    return .named (.name target) (← inner.expression)
  else inner.expression

/-- A spread expression, or an item. -/
def starredOr (item : Reader Expr) : Reader Expr := do
  if ← symbol? "*" then return .starred (← inner.bitOr) else item

/-- One item, or a tuple of several. -/
def tupleOf (item : Reader Expr) : Reader Expr := do
  match ← commaItems item with
  | ([only], false) => return only
  | (items, _) => return .tuple items

/-- Expressions that form a tuple when a comma stands between or behind them. -/
def expressions : Reader Expr :=
  tupleOf inner.expression

/-- As `expressions`, with spread ones among them. -/
def starExpressions : Reader Expr :=
  tupleOf (starredOr inner inner.expression)

/-- What follows the word `yield`. -/
def yieldRest : Reader Expr := do
  if ← word? "from" then return .yieldFrom (← inner.expression)
  else return .yield (← optionally (starExpressions inner))

/-- A `yield`, or expressions. -/
def yieldOrStarExpressions : Reader Expr := do
  if ← word? "yield" then yieldRest inner else starExpressions inner

/-! ### Targets -/

mutual

/-- Whether an expression can be bound; spread ones only where `stars` allows them. -/
def Expr.isTarget (stars : Bool) : Expr → Bool
  | .name _ | .attribute _ _ | .subscript _ _ => true
  | .starred value => stars && value.isTarget stars
  | .tuple elements | .list elements => areTargets stars elements
  | _ => false

def areTargets (stars : Bool) : List Expr → Bool
  | [] => true
  | first :: rest => first.isTarget stars && areTargets stars rest

end

/-- Whether an expression is a name, an attribute or an index. -/
def Expr.isSingleTarget : Expr → Bool
  | .name _ | .attribute _ _ | .subscript _ _ => true
  | _ => false

/-- An expression that can be bound. -/
def plainTarget (stars : Bool) : Reader Expr := do
  let target ← inner.primary
  require (target.isTarget stars)
  return target

/-- A target, or a spread one. -/
def starTarget : Reader Expr := do
  if ← symbol? "*" then return .starred (← plainTarget inner true) else plainTarget inner true

/-- The targets of a loop. -/
def loopTargets : Reader Expr :=
  tupleOf (starTarget inner)

/-! ### Comprehensions -/

/-- One clause of a comprehension, if there is one. -/
def clause? : Reader (Option (Clause Expr)) := do
  let isAsync ← word? "async"
  if ← word? "for" then
    let target ← loopTargets inner
    word "in"
    let source ← inner.disjunction
    let conditions ← repeatedly do
      if ← word? "if" then return some (← inner.disjunction) else return none
    return some { isAsync, target, source, conditions }
  else
    require (!isAsync)
    return none

/-- The clauses of a comprehension; none where there is no comprehension. -/
def clauses : Reader (List (Clause Expr)) :=
  repeatedly (clause? inner)

/-- Whether an expression is spread. -/
def Expr.isStarred : Expr → Bool
  | .starred _ => true
  | _ => false

/-- The inside of brackets: a comprehension made by `generate`, or items made into a whole by
`collect`, which also learns whether a comma closes them. -/
def display (item : Reader Expr) (generate : Expr → List (Clause Expr) → Expr)
    (collect : List Expr → Bool → Reader Expr) : Reader Expr := do
  match ← commaItems item with
  -- Only a single item without a comma behind it can be what a comprehension generates.
  | ([only], false) => do
    match ← clauses inner with
    | [] => collect [only] false
    | clauses => do
      require (!only.isStarred)
      return generate only clauses
  | (items, closed) => collect items closed

/-- An item of a list, tuple or set. -/
def element : Reader Expr :=
  starredOr inner (namedExpression inner)

/-- What follows an opening parenthesis. -/
def parenthesized : Reader Expr := do
  if ← symbol? ")" then return .tuple []
  else if ← word? "yield" then
    let value ← yieldRest inner
    symbol ")"
    return value
  else
    let value ← display inner (element inner) .generator fun items closed => do
      match items, closed with
      | [only], false => do
        require (!only.isStarred)
        return only
      | items, _ => return .tuple items
    symbol ")"
    return value

/-- What follows an opening square bracket. -/
def bracketed : Reader Expr := do
  if ← symbol? "]" then return .list []
  else
    let value ← display inner (element inner) .listComp fun items _ => return .list items
    symbol "]"
    return value

/-! ### Sets and dictionaries -/

/-- An item between braces. -/
inductive BraceItem
  | element (value : Expr)
  | pair (key : Option Expr) (value : Expr)

/-- The element of a set. -/
def BraceItem.element? : BraceItem → Option Expr
  | .element value => some value
  | .pair _ _ => none

/-- The pair of a dictionary. -/
def BraceItem.pair? : BraceItem → Option (Option Expr × Expr)
  | .element _ => none
  | .pair key value => some (key, value)

/-- An item between braces: a spread mapping, a pair around a colon, or an element. -/
def braceItem : Reader BraceItem := do
  if ← symbol? "**" then return .pair none (← inner.bitOr)
  else if ← symbol? "*" then return .element (.starred (← inner.bitOr))
  -- A key cannot be assigned, so that what is assigned is an element.
  else if ← nextIsNameBefore ":=" then return .element (← namedExpression inner)
  else
    let value ← inner.expression
    if ← symbol? ":" then return .pair (some value) (← inner.expression)
    else return .element value

/-- A set or dictionary by comprehension from its only item. -/
def braceComprehension (item : BraceItem) (clauses : List (Clause Expr)) : Reader Expr :=
  match item with
  | .element value => do
    require (!value.isStarred)
    return .setComp value clauses
  | .pair (some key) value => return .dictComp key value clauses
  | .pair none _ => failure

/-- A set of elements, or a dictionary of pairs. -/
def braceCollection (items : List BraceItem) : Reader Expr :=
  match items.mapM BraceItem.element?, items.mapM BraceItem.pair? with
  | some elements, _ => return .set elements
  | none, some pairs => return .dict pairs
  | none, none => failure

/-- What follows an opening brace. -/
def braced : Reader Expr := do
  if ← symbol? "\x7d" then return .dict []
  else
    let (items, closed) ← commaItems (braceItem inner)
    let clauses ← if closed then pure [] else clauses inner
    let value ← match items, clauses with
      | [item], first :: rest => braceComprehension item (first :: rest)
      | items, [] => braceCollection items
      | _, _ => failure
    symbol "\x7d"
    return value

/-! ### Atoms -/

/-- A quoted literal, if it is next. -/
def literal? : Reader (Option Literal) := fun tokens =>
  match tokens with
  | .literal literal :: rest => some (some literal, rest)
  | tokens => some (none, tokens)

/-- A name, a literal, or brackets. -/
def atom : Reader Expr := do
  match ← next with
  | .name id _ => return .name id
  | .keyword "True" => return .constant (.truth true)
  | .keyword "False" => return .constant (.truth false)
  | .keyword "None" => return .constant .nothing
  | .number value => return .constant value
  | .literal first => do
    -- Literals that stand next to each other are one constant.
    let rest ← repeatedly literal?
    ofOption (joinLiterals inner.field (first :: rest))
  | .symbol "..." => return .constant .ellipsis
  | .symbol "(" => parenthesized inner
  | .symbol "[" => bracketed inner
  | .symbol "\x7b" => braced inner
  | _ => failure

/-! ### Calls and indices -/

/-- An argument of a call: by position or spread, by name, or a mapping spread into names. -/
inductive Argument
  | positional (value : Expr)
  | named (keyword : Keyword Expr)

/-- The argument by position. -/
def Argument.positional? : Argument → Option Expr
  | .positional value => some value
  | .named _ => none

/-- The argument by name. -/
def Argument.keyword? : Argument → Option (Keyword Expr)
  | .positional _ => none
  | .named keyword => some keyword

/-- Whether one argument may stand behind another: behind a name only spread or named ones, behind
a spread mapping only named ones and further mappings. -/
def Argument.mayFollow (earlier later : Argument) : Bool :=
  match earlier, later with
  | .positional _, _ => true
  | .named ⟨some _, _⟩, .positional value => value.isStarred
  | .named ⟨none, _⟩, .positional _ => false
  | .named _, .named _ => true

/-- Whether every argument may stand behind all the earlier ones. -/
def argumentsInOrder : List Argument → Bool
  | [] => true
  | first :: rest => rest.all first.mayFollow && argumentsInOrder rest

/-- One argument of a call. -/
def argument : Reader Argument := do
  if ← symbol? "**" then return .named ⟨none, ← inner.expression⟩
  else if ← symbol? "*" then return .positional (.starred (← inner.expression))
  else if ← nextIsNameBefore "=" then
    let label ← name
    symbol "="
    return .named ⟨some label, ← inner.expression⟩
  else return .positional (← namedExpression inner)

/-- The arguments of a call up to the closing parenthesis. Where `generators` allows it, a generator
may be the only one. -/
def arguments (generators : Bool) : Reader (List Expr × List (Keyword Expr)) := do
  if ← symbol? ")" then return ([], [])
  else
    let (items, closed) ← commaItems (argument inner)
    let clauses ← if closed || !generators then pure [] else clauses inner
    symbol ")"
    match items, clauses with
    -- A generator without parentheses of its own must be the only argument.
    | [.positional value], first :: rest => do
      require (!value.isStarred)
      return ([.generator value (first :: rest)], [])
    | items, [] => do
      require (argumentsInOrder items)
      return (items.filterMap Argument.positional?, items.filterMap Argument.keyword?)
    | _, _ => failure

/-- An index: an expression, a slice, or a spread expression. -/
def indexItem : Reader Expr := do
  if ← symbol? "*" then return .starred (← inner.expression)
  else if ← nextIsNameBefore ":=" then namedExpression inner
  else
    -- Without a colon what is read here is the whole index, so that it cannot be missing.
    let lower ← if ← nextIsSymbol [":"] then pure none else some <$> inner.expression
    if ← symbol? ":" then
      let upper ← optionally inner.expression
      let step ← if ← symbol? ":" then optionally inner.expression else pure none
      return .slice lower upper step
    else ofOption lower

/-- The indices up to the closing bracket. A spread one always makes a tuple. -/
def indices : Reader Expr := do
  let items ← commaItems (indexItem inner)
  symbol "]"
  match items with
  | ([only], false) => return if only.isStarred then .tuple [only] else only
  | (items, _) => return .tuple items

/-- What may follow a value: an attribute, a call, or an index. -/
def trailer (value : Expr) : Reader (Option Expr) := do
  if ← symbol? "." then return some (.attribute value (← name))
  else if ← symbol? "(" then
    let (args, keywords) ← arguments inner true
    return some (.call value args keywords)
  else if ← symbol? "[" then return some (.subscript value (← indices inner))
  else return none

/-- An atom with all that follows it. -/
def primary : Reader Expr := do
  iterate (trailer inner) (← atom inner)

/-! ### Operators -/

/-- A value with a power. -/
def power : Reader Expr := do
  let base ← if ← word? "await" then .await <$> primary inner else primary inner
  if ← symbol? "**" then return .binary base .pow (← inner.factor) else return base

/-- A value with signs in front. -/
def factor : Reader Expr := do
  if ← symbol? "+" then return .unary .plus (← inner.factor)
  else if ← symbol? "-" then return .unary .minus (← inner.factor)
  else if ← symbol? "~" then return .unary .invert (← inner.factor)
  else power inner

/-- The operator of a symbol among the given ones, if it is next. -/
def operator? (operators : List (String × BinaryOperator)) : Reader (Option BinaryOperator) :=
  fun tokens =>
    match tokens with
    | .symbol text :: rest =>
      match operators.lookup text with
      | some operator => some (some operator, rest)
      | none => some (none, .symbol text :: rest)
    | tokens => some (none, tokens)

/-- Operands joined by operators that group to the left. -/
def leftChain (operators : List (String × BinaryOperator)) (operand : Reader Expr) :
    Reader Expr := do
  iterate (fun left => do
    match ← operator? operators with
    | some operator => return some (.binary left operator (← operand))
    | none => return none) (← operand)

def product : Reader Expr :=
  leftChain [("*", .mul), ("/", .div), ("//", .floorDiv), ("%", .mod), ("@", .matMul)]
    (factor inner)

def sum : Reader Expr :=
  leftChain [("+", .add), ("-", .sub)] (product inner)

def shift : Reader Expr :=
  leftChain [("<<", .shiftLeft), (">>", .shiftRight)] (sum inner)

def bitAnd : Reader Expr :=
  leftChain [("&", .bitAnd)] (shift inner)

def bitXor : Reader Expr :=
  leftChain [("^", .bitXor)] (bitAnd inner)

def bitOr : Reader Expr :=
  leftChain [("|", .bitOr)] (bitXor inner)

/-- The comparisons by symbol. -/
def comparisonSymbols : List (String × Comparison) :=
  [("==", .equal), ("!=", .notEqual), ("<", .less), ("<=", .lessEqual), (">", .greater),
    (">=", .greaterEqual)]

/-- The comparison that is next, by symbol or by words. -/
def comparison? : Reader (Option Comparison) := do
  if ← word? "in" then return some .member
  else if ← word? "not" then
    word "in"
    return some .notMember
  else if ← word? "is" then
    return some (if ← word? "not" then .notSame else .same)
  else fun tokens =>
    match tokens with
    | .symbol text :: rest =>
      match comparisonSymbols.lookup text with
      | some comparison => some (some comparison, rest)
      | none => some (none, .symbol text :: rest)
    | tokens => some (none, tokens)

/-- Operands joined by comparisons. -/
def comparison : Reader Expr := do
  let left ← bitOr inner
  let rest ← repeatedly do
    match ← comparison? with
    | some comparison => return some (comparison, ← bitOr inner)
    | none => return none
  return if rest.isEmpty then left else .compare left rest

def inversion : Reader Expr := do
  if ← word? "not" then return .unary .not (← inner.inversion) else comparison inner

/-- Operands joined by one word into one expression. -/
def wordChain (text : String) (operator : BooleanOperator) (operand : Reader Expr) :
    Reader Expr := do
  let first ← operand
  let rest ← repeatedly do
    if ← word? text then return some (← operand) else return none
  return if rest.isEmpty then first else .boolean operator (first :: rest)

def conjunction : Reader Expr :=
  wordChain "and" .and (inversion inner)

def disjunction : Reader Expr :=
  wordChain "or" .or (conjunction inner)

/-! ### Parameters -/

/-- An item of a parameter list: a parameter of one of the kinds, or a mark that sets kinds
apart. -/
inductive ParameterItem
  | plain (parameter : Parameter Expr)
  | slash
  | star
  | variadic (parameter : Parameter Expr)
  | keywords (parameter : Parameter Expr)

/-- The plain parameters at the front of a list of items, and the other items. -/
def splitPlain : List ParameterItem → List (Parameter Expr) × List ParameterItem
  | .plain parameter :: rest =>
    let (parameters, rest) := splitPlain rest
    (parameter :: parameters, rest)
  | items => ([], items)

/-- Whether no parameter without default stands behind one with a default. -/
def defaultsClose (parameters : List (Parameter Expr)) : Bool :=
  (parameters.dropWhile (·.default.isNone)).all (·.default.isSome)

/-- The parameters behind the one that collects positions: those by name, and the one that collects
names. -/
def Parameters.withNames? (base : Parameters Expr) (items : List ParameterItem) :
    Option (Parameters Expr) :=
  match splitPlain items with
  | (nameOnly, []) => some { base with nameOnly }
  | (nameOnly, [.keywords parameter]) => some { base with nameOnly, keywords := some parameter }
  | _ => none

/-- The parameters that a list of items makes up, if it is in order. -/
def Parameters.ofItems? (items : List ParameterItem) : Option (Parameters Expr) := do
  let (first, rest) := splitPlain items
  let (positionOnly, regular, rest) ← match rest with
    | .slash :: rest =>
      let (regular, rest) := splitPlain rest
      if first.isEmpty then none else some (first, regular, rest)
    | rest => some ([], first, rest)
  let base : Parameters Expr := { positionOnly, regular }
  if !defaultsClose (positionOnly ++ regular) then none
  else
    match rest with
    | .variadic parameter :: rest => ({ base with variadic := some parameter }).withNames? rest
    | .star :: .plain parameter :: rest => base.withNames? (.plain parameter :: rest)
    | [] => some base
    | [.keywords parameter] => some { base with keywords := some parameter }
    | _ => none

/-- An annotation behind a name where annotations are allowed. -/
def annotation? (annotated : Bool) (value : Reader Expr) : Reader (Option Expr) := do
  if annotated then
    if ← symbol? ":" then some <$> value else return none
  else return none

/-- An item of a parameter list. -/
def parameterItem (annotated : Bool) : Reader ParameterItem := do
  if ← symbol? "/" then return .slash
  else if ← symbol? "**" then
    let label ← name
    return .keywords { name := label, annotation := ← annotation? annotated inner.expression }
  else if ← symbol? "*" then
    if ← nextIsSymbol [","] then return .star
    else
      let label ← name
      let annotation ← annotation? annotated (starredOr inner inner.expression)
      return .variadic { name := label, annotation }
  else
    let label ← name
    let annotation ← annotation? annotated inner.expression
    let default ← if ← symbol? "=" then some <$> inner.expression else pure none
    return .plain { name := label, annotation, default }

/-- Parameters up to the symbol that closes them, which stays. -/
def parameters (annotated : Bool) (closing : String) : Reader (Parameters Expr) := do
  if ← nextIsSymbol [closing] then return {}
  else
    let (items, _) ← commaItems (parameterItem inner annotated)
    ofOption (Parameters.ofItems? items)

/-! ### Expressions -/

/-- An expression: a function without name, or a disjunction that may be conditional. -/
def expression : Reader Expr := do
  if ← word? "lambda" then
    let parameters ← parameters inner false ":"
    symbol ":"
    return .lambda parameters (← inner.expression)
  else
    let body ← disjunction inner
    if ← word? "if" then
      let test ← disjunction inner
      word "else"
      return .conditional test body (← inner.expression)
    else return body

/-- The expression in a field, given with parentheses around it. -/
def fieldExpression (text : List Char) : Option Expr :=
  (tokenize text).bind (runAll (starExpressions inner))

/-! ### Grammars -/

/-- The grammar around an inner place. -/
def grammarAround : Grammar where
  expression := expression inner
  disjunction := disjunction inner
  inversion := inversion inner
  bitOr := bitOr inner
  factor := factor inner
  primary := primary inner
  field := fieldExpression inner

end

/-- The grammar of a depth; at depth zero nothing can be read. -/
def Grammar.ofDepth : Nat → Grammar
  | 0 => ⟨failure, failure, failure, failure, failure, failure, fun _ => none⟩
  | depth + 1 => grammarAround (Grammar.ofDepth depth)

end EntryPoint.Syntax
