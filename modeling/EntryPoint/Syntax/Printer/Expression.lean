/-
# The text of expressions

An expression prints on one line with the parentheses that its place demands: it
is enclosed when it binds less tightly than its place requires.

## Main definitions

* `Level` - how tightly a form of expression binds.
* `Expr.print` - the text of an expression at a place of some level.
* `Parameters.print` - the text of the parameters of a function.
-/

import EntryPoint.Syntax.Printer.Literal

namespace EntryPoint.Syntax

/-- How tightly a form binds; a higher level binds more tightly. -/
abbrev Level := Nat

namespace Level

def named : Level := 1
def tuple : Level := 2
def yield : Level := 3
def test : Level := 4
def or : Level := 5
def and : Level := 6
def not : Level := 7
def comparison : Level := 8
def bitOr : Level := 9
def bitXor : Level := 10
def bitAnd : Level := 11
def shift : Level := 12
def sum : Level := 13
def product : Level := 14
def sign : Level := 15
def power : Level := 16
def await : Level := 17
def atom : Level := 18

/-- The next tighter level. -/
def next (level : Level) : Level :=
  min (level + 1) atom

end Level

def BooleanOperator.symbol : BooleanOperator → String
  | .and => "and"
  | .or => "or"

def BooleanOperator.level : BooleanOperator → Level
  | .and => Level.and
  | .or => Level.or

def BinaryOperator.symbol : BinaryOperator → String
  | .add => "+"
  | .sub => "-"
  | .mul => "*"
  | .matMul => "@"
  | .div => "/"
  | .mod => "%"
  | .pow => "**"
  | .shiftLeft => "<<"
  | .shiftRight => ">>"
  | .bitOr => "|"
  | .bitXor => "^"
  | .bitAnd => "&"
  | .floorDiv => "//"

def BinaryOperator.level : BinaryOperator → Level
  | .add | .sub => Level.sum
  | .mul | .matMul | .div | .mod | .floorDiv => Level.product
  | .pow => Level.power
  | .shiftLeft | .shiftRight => Level.shift
  | .bitOr => Level.bitOr
  | .bitXor => Level.bitXor
  | .bitAnd => Level.bitAnd

/-- The levels that the two operands must reach. Only powers group to the right. -/
def BinaryOperator.operandLevels (operator : BinaryOperator) : Level × Level :=
  match operator with
  | .pow => (operator.level.next, operator.level)
  | _ => (operator.level, operator.level.next)

def UnaryOperator.symbol : UnaryOperator → String
  | .invert => "~"
  | .not => "not "
  | .plus => "+"
  | .minus => "-"

def UnaryOperator.level : UnaryOperator → Level
  | .not => Level.not
  | .invert | .plus | .minus => Level.sign

def Comparison.symbol : Comparison → String
  | .equal => "=="
  | .notEqual => "!="
  | .less => "<"
  | .lessEqual => "<="
  | .greater => ">"
  | .greaterEqual => ">="
  | .same => "is"
  | .notSame => "is not"
  | .member => "in"
  | .notMember => "not in"

/-- Texts with commas between them. -/
def commas (texts : List String) : String :=
  ", ".intercalate texts

/-- Texts with commas between them, and one behind a single text. -/
def tupleCommas : List String → String
  | [only] => only ++ ","
  | texts => commas texts

/-- Encloses a text where its place demands a tighter level than its form has. -/
def encloseAbove (form place : Level) (text : String) : String :=
  if form < place then "(" ++ text ++ ")" else text

/-- Whether an expression is an integer or a truth value, whose attribute needs a blank before
the point. -/
def Expr.needsBlankBeforePoint : Expr → Bool
  | .constant (.integer _) | .constant (.truth _) => true
  | _ => false

/-- The parts of a parameter list in order, given the text of each parameter. -/
def Parameters.arrange (positionOnly regular : List String) (variadic : Option String)
    (nameOnly : List String) (keywords : Option String) : String :=
  commas (
    positionOnly ++ (if positionOnly.isEmpty then [] else ["/"]) ++ regular ++
    (match variadic with
      | some text => ["*" ++ text]
      | none => if nameOnly.isEmpty then [] else ["*"]) ++
    nameOnly ++ (keywords.map ("**" ++ ·)).toList)

/-- The level that an index demands: a tuple stands between brackets without parentheses. -/
def Expr.indexLevel : Expr → Level
  | .tuple _ => Level.tuple
  | _ => Level.test

/-- A replacement field around the text of its expression. The text must do without backslashes,
and a brace that opens it is kept apart from the brace of the field. -/
def fieldText (value : String) (conversion : Option Char) (spec : String) :
    Except Unprintable String :=
  if value.toList.contains '\\' then .error .backslashInField
  else
    let blank := if value.toList.head? = some '\x7b' then " " else ""
    let conversion := match conversion with
      | some c => "!" ++ String.singleton c
      | none => ""
    .ok ("\x7b" ++ blank ++ value ++ conversion ++ spec ++ "\x7d")

/-! ### The printer -/

mutual

/-- The text of an expression where its place demands a level, inside a replacement field or
not. -/
def Expr.print (inField : Bool) (place : Level) : Expr → Except Unprintable String
  | .constant value => value.print inField
  | .name id => .ok id
  | .attribute value attr => do
    let blank := if value.needsBlankBeforePoint then " " else ""
    return (← value.print inField Level.atom) ++ blank ++ "." ++ attr
  | .subscript value index => do
    let value ← value.print inField Level.atom
    let index ← index.print inField index.indexLevel
    return value ++ "[" ++ index ++ "]"
  | .call callee args keywords => do
    let callee ← callee.print inField Level.atom
    let args ← printAll inField args
    let keywords ← printKeywords inField keywords
    return callee ++ "(" ++ commas (args ++ keywords) ++ ")"
  | .starred value => return "*" ++ (← value.print inField Level.bitOr)
  | .tuple elements => do
    let elements ← printAll inField elements
    return if elements.isEmpty then "()" else encloseAbove Level.tuple place (tupleCommas elements)
  | .list elements => return "[" ++ commas (← printAll inField elements) ++ "]"
  | .set elements => do
    let elements ← printAll inField elements
    -- Braces with nothing between them would be a dictionary.
    return if elements.isEmpty then "\x7b*()\x7d" else "\x7b" ++ commas elements ++ "\x7d"
  | .dict items => return "\x7b" ++ commas (← printItems inField items) ++ "\x7d"
  | .listComp element clauses => do
    let element ← element.print inField Level.test
    return "[" ++ element ++ (← printClauses inField clauses) ++ "]"
  | .setComp element clauses => do
    let element ← element.print inField Level.test
    return "\x7b" ++ element ++ (← printClauses inField clauses) ++ "\x7d"
  | .dictComp key value clauses => do
    let key ← key.print inField Level.test
    let value ← value.print inField Level.test
    return "\x7b" ++ key ++ ": " ++ value ++ (← printClauses inField clauses) ++ "\x7d"
  | .generator element clauses => do
    let element ← element.print inField Level.test
    return "(" ++ element ++ (← printClauses inField clauses) ++ ")"
  | .boolean operator operands => do
    let operands ← printClimbing inField operator.level.next operands
    return encloseAbove operator.level place ((" " ++ operator.symbol ++ " ").intercalate operands)
  | .binary left operator right => do
    let left ← left.print inField operator.operandLevels.1
    let right ← right.print inField operator.operandLevels.2
    return encloseAbove operator.level place (left ++ " " ++ operator.symbol ++ " " ++ right)
  | .unary operator operand => do
    let operand ← operand.print inField operator.level
    return encloseAbove operator.level place (operator.symbol ++ operand)
  | .compare left rest => do
    let left ← left.print inField Level.comparison.next
    let rest ← printComparisons inField rest
    return encloseAbove Level.comparison place (left ++ rest)
  | .conditional test body orElse => do
    let body ← body.print inField Level.test.next
    let test ← test.print inField Level.test.next
    let orElse ← orElse.print inField Level.test
    return encloseAbove Level.test place (body ++ " if " ++ test ++ " else " ++ orElse)
  | .lambda parameters body => do
    let parameters ← printParameters inField parameters
    let body ← body.print inField Level.test
    let head := if parameters.isEmpty then "lambda" else "lambda " ++ parameters
    return encloseAbove Level.test place (head ++ ": " ++ body)
  | .named target value => do
    let target ← target.print inField Level.atom
    let value ← value.print inField Level.atom
    return encloseAbove Level.named place (target ++ " := " ++ value)
  | .await value => do
    let value ← value.print inField Level.atom
    return encloseAbove Level.await place ("await " ++ value)
  | .yield value => do
    -- A `yield` stands in parentheses everywhere but in a statement of its own.
    let value ← printOption inField Level.atom " " value
    return encloseAbove Level.yield place ("yield" ++ value)
  | .yieldFrom value => do
    let value ← value.print inField Level.atom
    return encloseAbove Level.yield place ("yield from " ++ value)
  | .slice lower upper step => do
    let lower ← printOption inField Level.test "" lower
    let upper ← printOption inField Level.test "" upper
    let step ← printOption inField Level.test ":" step
    return lower ++ ":" ++ upper ++ step
  | .formatted value conversion spec => do
    -- A lambda or a conditional in a field would let its colon end the field, so that they are
    -- enclosed.
    let value ← value.print true Level.test.next
    let spec ← printSpec spec
    fieldText value conversion spec
  | .joined parts => do
    let pieces ← printPieces parts
    return "f" ++
      -- Inside a field the parts have one text already, whose quotes are chosen at once.
      (if inField then printInQuotes allQuotes (String.join (pieces.map (·.1)))
      else printParts pieces)

/-- The texts of expressions that stand between commas. -/
def printAll (inField : Bool) : List Expr → Except Unprintable (List String)
  | [] => .ok []
  | first :: rest => return (← first.print inField Level.test) :: (← printAll inField rest)

/-- The texts of the operands of a boolean operator: each place demands more than the one before
it. -/
def printClimbing (inField : Bool) (place : Level) : List Expr → Except Unprintable (List String)
  | [] => .ok []
  | first :: rest =>
    return (← first.print inField place) :: (← printClimbing inField place.next rest)

/-- The text of an expression that may be missing, behind an opening text. -/
def printOption (inField : Bool) (place : Level) (opening : String) :
    Option Expr → Except Unprintable String
  | none => .ok ""
  | some value => return opening ++ (← value.print inField place)

/-- The text of the items of a dictionary; an item without key spreads a mapping. -/
def printItems (inField : Bool) : List (Option Expr × Expr) → Except Unprintable (List String)
  | [] => .ok []
  | (none, value) :: rest =>
    return ("**" ++ (← value.print inField Level.bitOr)) :: (← printItems inField rest)
  | (some key, value) :: rest => do
    let key ← key.print inField Level.test
    let value ← value.print inField Level.test
    return (key ++ ": " ++ value) :: (← printItems inField rest)

/-- The texts of arguments given by name; one without name spreads a mapping. -/
def printKeywords (inField : Bool) : List (Keyword Expr) → Except Unprintable (List String)
  | [] => .ok []
  | ⟨name, value⟩ :: rest => do
    let value ← value.print inField Level.test
    let text := match name with
      | some name => name ++ "=" ++ value
      | none => "**" ++ value
    return text :: (← printKeywords inField rest)

/-- The comparisons behind the first operand. -/
def printComparisons (inField : Bool) :
    List (Comparison × Expr) → Except Unprintable String
  | [] => .ok ""
  | (operator, value) :: rest => do
    let value ← value.print inField Level.comparison.next
    return " " ++ operator.symbol ++ " " ++ value ++ (← printComparisons inField rest)

/-- The clauses of a comprehension. -/
def printClauses (inField : Bool) : List (Clause Expr) → Except Unprintable String
  | [] => .ok ""
  | ⟨isAsync, target, source, conditions⟩ :: rest => do
    let target ← target.print inField Level.tuple
    let source ← source.print inField Level.test.next
    let conditions ← printConditions inField conditions
    let opening := if isAsync then " async for " else " for "
    return opening ++ target ++ " in " ++ source ++ conditions ++ (← printClauses inField rest)

/-- The conditions of one clause. -/
def printConditions (inField : Bool) : List Expr → Except Unprintable String
  | [] => .ok ""
  | first :: rest =>
    return " if " ++ (← first.print inField Level.test.next) ++ (← printConditions inField rest)

/-- The text of the parameters of a function. -/
def printParameters (inField : Bool) : Parameters Expr → Except Unprintable String
  | ⟨positionOnly, regular, variadic, nameOnly, keywords⟩ => do
    let positionOnly ← printParameterList inField positionOnly
    let regular ← printParameterList inField regular
    let variadic ← printParameterOption inField variadic
    let nameOnly ← printParameterList inField nameOnly
    let keywords ← printParameterOption inField keywords
    return Parameters.arrange positionOnly regular variadic nameOnly keywords

def printParameterList (inField : Bool) :
    List (Parameter Expr) → Except Unprintable (List String)
  | [] => .ok []
  | first :: rest => return (← printParameter inField first) :: (← printParameterList inField rest)

def printParameterOption (inField : Bool) :
    Option (Parameter Expr) → Except Unprintable (Option String)
  | none => .ok none
  | some parameter => return some (← printParameter inField parameter)

/-- A parameter with its annotation and default. -/
def printParameter (inField : Bool) : Parameter Expr → Except Unprintable String
  | ⟨name, annotation, default⟩ => do
    let annotation ← printOption inField Level.test ": " annotation
    let default ← printOption inField Level.test "=" default
    return name ++ annotation ++ default

/-- The texts of the parts of a literal with replacement fields, each marked as plain text or
not. -/
def printPieces : List Expr → Except Unprintable (List (String × Bool))
  | [] => .ok []
  | first :: rest => return (← printPiece first) :: (← printPieces rest)

/-- The text of one part. -/
def printPiece : Expr → Except Unprintable (String × Bool)
  | .constant (.text value _) => .ok (doubleBraces value, true)
  | .formatted value conversion spec => do
    let value ← value.print true Level.test.next
    let spec ← printSpec spec
    return (← fieldText value conversion spec, false)
  | .joined parts => return (String.join ((← printPieces parts).map (·.1)), false)
  | _ => .error .partOfText

/-- The format of a replacement field behind its colon. -/
def printSpec : Option Expr → Except Unprintable String
  | none => .ok ""
  | some spec => return ":" ++ (← printPiece spec).1

end

/-- The text of an expression on its own. -/
def Expr.text (expr : Expr) : Except Unprintable String :=
  expr.print false Level.test

end EntryPoint.Syntax
