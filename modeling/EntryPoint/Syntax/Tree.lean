/-
# Syntax trees

The trees of the modules that entry points are made of: expressions, patterns
and statements. Whether a target is bound, deleted or read follows from where
it stands, so no tree says it again.

## Main definitions

* `Constant` - the literals.
* `Expr` - expressions.
* `Pattern` - the patterns of a match statement.
* `Stmt` - statements; a module is a list of them.

The parts that several forms share (`Parameters`, `Keyword`, `Clause`) are
parametrised by the type of the expressions inside them.
-/

import EntryPoint.Decimal.Binary64

namespace EntryPoint.Syntax

open Decimal

/-- A literal. A text remembers whether it was written with the mark `u`. -/
inductive Constant
  | nothing
  | truth (value : Bool)
  | ellipsis
  | integer (value : Nat)
  | real (value : Binary64)
  | imaginary (value : Binary64)
  | text (value : String) (marked : Bool)
  | bytes (value : List UInt8)
  deriving DecidableEq, Inhabited

inductive BooleanOperator
  | and | or
  deriving DecidableEq

inductive BinaryOperator
  | add | sub | mul | matMul | div | mod | pow | shiftLeft | shiftRight | bitOr | bitXor | bitAnd
  | floorDiv
  deriving DecidableEq

inductive UnaryOperator
  | invert | not | plus | minus
  deriving DecidableEq

inductive Comparison
  | equal | notEqual | less | lessEqual | greater | greaterEqual | same | notSame | member
  | notMember
  deriving DecidableEq

/-- A parameter of a function. -/
structure Parameter (Node : Type) where
  name : String
  annotation : Option Node := none
  default : Option Node := none

/-- The parameters of a function by kind: those given by position only, those given by position
or name, the one that collects further positions, those given by name only, and the one that
collects further names. -/
structure Parameters (Node : Type) where
  positionOnly : List (Parameter Node) := []
  regular : List (Parameter Node) := []
  variadic : Option (Parameter Node) := none
  nameOnly : List (Parameter Node) := []
  keywords : Option (Parameter Node) := none

/-- An argument given by name, or a mapping that is spread into names. -/
structure Keyword (Node : Type) where
  name : Option String
  value : Node

/-- One `for` of a comprehension with its conditions. -/
structure Clause (Node : Type) where
  isAsync : Bool := false
  target : Node
  source : Node
  conditions : List Node := []

/-- An expression. -/
inductive Expr
  | constant (value : Constant)
  | name (id : String)
  | attribute (value : Expr) (attr : String)
  | subscript (value index : Expr)
  | call (callee : Expr) (args : List Expr) (keywords : List (Keyword Expr))
  | starred (value : Expr)
  | tuple (elements : List Expr)
  | list (elements : List Expr)
  | set (elements : List Expr)
  | dict (items : List (Option Expr × Expr))
  | listComp (element : Expr) (clauses : List (Clause Expr))
  | setComp (element : Expr) (clauses : List (Clause Expr))
  | dictComp (key value : Expr) (clauses : List (Clause Expr))
  | generator (element : Expr) (clauses : List (Clause Expr))
  | boolean (operator : BooleanOperator) (operands : List Expr)
  | binary (left : Expr) (operator : BinaryOperator) (right : Expr)
  | unary (operator : UnaryOperator) (operand : Expr)
  | compare (left : Expr) (rest : List (Comparison × Expr))
  | conditional (test body orElse : Expr)
  | lambda (parameters : Parameters Expr) (body : Expr)
  | named (target value : Expr)
  | await (value : Expr)
  | yield (value : Option Expr)
  | yieldFrom (value : Expr)
  | slice (lower upper step : Option Expr)
  | formatted (value : Expr) (conversion : Option Char) (spec : Option Expr)
  | joined (parts : List Expr)
  deriving Inhabited

/-- A pattern of a match statement. -/
inductive Pattern
  | value (value : Expr)
  | singleton (value : Constant)
  | sequence (elements : List Pattern)
  | mapping (items : List (Expr × Pattern)) (rest : Option String)
  | construct (cls : Expr) (positions : List Pattern) (attributes : List (String × Pattern))
  | star (name : Option String)
  | capture (pattern : Option Pattern) (name : Option String)
  | alternatives (patterns : List Pattern)
  deriving Inhabited

/-- A name that an import binds, possibly under another name. -/
structure Alias where
  name : String
  asName : Option String := none
  deriving DecidableEq

/-- An item of a `with` statement. -/
structure WithItem where
  context : Expr
  target : Option Expr := none

/-- One arm of a match statement. -/
structure MatchArm (Body : Type) where
  pattern : Pattern
  guard : Option Expr := none
  body : Body

/-- One exception handler of a `try` statement. -/
structure Handler (Body : Type) where
  type : Option Expr := none
  name : Option String := none
  body : Body

/-- The head of a function definition: all but its body. -/
structure FunctionHead where
  isAsync : Bool := false
  name : String
  parameters : Parameters Expr := {}
  decorators : List Expr := []
  returns : Option Expr := none

/-- The head of a class definition. -/
structure ClassHead where
  name : String
  bases : List Expr := []
  keywords : List (Keyword Expr) := []
  decorators : List Expr := []

/-- A statement. -/
inductive Stmt
  | functionDef (head : FunctionHead) (body : List Stmt)
  | classDef (head : ClassHead) (body : List Stmt)
  | returnValue (value : Option Expr)
  | delete (targets : List Expr)
  | assign (targets : List Expr) (value : Expr)
  | augAssign (target : Expr) (operator : BinaryOperator) (value : Expr)
  | annAssign (target annotation : Expr) (value : Option Expr) (isBare : Bool)
  | forLoop (isAsync : Bool) (target source : Expr) (body orElse : List Stmt)
  | whileLoop (test : Expr) (body orElse : List Stmt)
  | branch (test : Expr) (body orElse : List Stmt)
  | withBlock (isAsync : Bool) (items : List WithItem) (body : List Stmt)
  | matchBlock (subject : Expr) (arms : List (MatchArm (List Stmt)))
  | raise (exception cause : Option Expr)
  | tryBlock (isStar : Bool) (body : List Stmt) (handlers : List (Handler (List Stmt)))
      (orElse final : List Stmt)
  | assertion (test : Expr) (message : Option Expr)
  | importModules (names : List Alias)
  | importFrom (module : Option String) (names : List Alias) (level : Nat)
  | globalNames (names : List String)
  | nonlocalNames (names : List String)
  | expression (value : Expr)
  | pass
  | breakLoop
  | continueLoop
  deriving Inhabited

end EntryPoint.Syntax
