/-
# The text of statements and modules

A statement prints as lines indented by four blanks a level. A blank line stands
before every function and class except at the very start. The first statement of
a module, function or class prints as a docstring when it is a plain text.

## Main definitions

* `Pattern.print` - the text of a pattern.
* `Stmt.lines` - the lines of a statement.
* `printModule` - the text of a module.
* `Stmt.text` - the text of a statement on its own.
-/

import EntryPoint.Syntax.Printer.Expression

namespace EntryPoint.Syntax

/-! ### Patterns -/

mutual

/-- The text of a pattern where its place demands a level. -/
def Pattern.print (place : Level) : Pattern → Except Unprintable String
  | .value value => value.text
  | .singleton value => value.print false
  | .sequence elements => return "[" ++ commas (← printPatterns Level.test elements) ++ "]"
  | .mapping items rest => do
    let items ← printPatternItems items
    return "\x7b" ++ commas (items ++ (rest.map ("**" ++ ·)).toList) ++ "\x7d"
  | .construct cls positions attributes => do
    let cls ← cls.print false Level.atom
    let positions ← printPatterns Level.test positions
    let attributes ← printPatternAttributes attributes
    return cls ++ "(" ++ commas (positions ++ attributes) ++ ")"
  | .star name => return "*" ++ name.getD "_"
  | .capture _ none => return "_"
  | .capture none (some name) => return name
  | .capture (some pattern) (some name) => do
    let pattern ← pattern.print Level.bitOr
    return encloseAbove Level.test place (pattern ++ " as " ++ name)
  | .alternatives patterns => do
    let patterns ← printPatterns Level.bitOr.next patterns
    return encloseAbove Level.bitOr place (" | ".intercalate patterns)

def printPatterns (place : Level) : List Pattern → Except Unprintable (List String)
  | [] => .ok []
  | first :: rest => return (← first.print place) :: (← printPatterns place rest)

/-- The keys and patterns of a mapping pattern. -/
def printPatternItems : List (Expr × Pattern) → Except Unprintable (List String)
  | [] => .ok []
  | (key, pattern) :: rest => do
    let key ← key.text
    let pattern ← pattern.print Level.test
    return (key ++ ": " ++ pattern) :: (← printPatternItems rest)

/-- The attributes and patterns of a class pattern. -/
def printPatternAttributes : List (String × Pattern) → Except Unprintable (List String)
  | [] => .ok []
  | (label, pattern) :: rest => do
    let pattern ← pattern.print Level.test
    return (label ++ "=" ++ pattern) :: (← printPatternAttributes rest)

end

/-! ### Parts of statements -/

/-- The indentation of a level. -/
def indentation (depth : Nat) : String :=
  String.ofList (List.replicate (4 * depth) ' ')

/-- One line at a depth. -/
def lineAt (depth : Nat) (text : String) : String :=
  indentation depth ++ text

def Alias.print (item : Alias) : String :=
  match item.asName with
  | some asName => item.name ++ " as " ++ asName
  | none => item.name

def WithItem.print (item : WithItem) : Except Unprintable String := do
  let context ← item.context.text
  match item.target with
  | some target => return context ++ " as " ++ (← target.text)
  | none => return context

/-- The decorator lines above a definition. -/
def decoratorLines (depth : Nat) (decorators : List Expr) : Except Unprintable (List String) :=
  decorators.mapM fun decorator => return lineAt depth ("@" ++ (← decorator.text))

/-- The lines of the head of a function, decorators first. -/
def FunctionHead.lines (depth : Nat) (head : FunctionHead) : Except Unprintable (List String) := do
  let decorators ← decoratorLines depth head.decorators
  let parameters ← printParameters false head.parameters
  let returns ← printOption false Level.test " -> " head.returns
  let opening := if head.isAsync then "async def " else "def "
  let line := opening ++ head.name ++ "(" ++ parameters ++ ")" ++ returns ++ ":"
  return decorators ++ [lineAt depth line]

/-- The lines of the head of a class, decorators first. -/
def ClassHead.lines (depth : Nat) (head : ClassHead) : Except Unprintable (List String) := do
  let decorators ← decoratorLines depth head.decorators
  let bases ← printAll false head.bases
  let keywords ← printKeywords false head.keywords
  let arguments := match bases ++ keywords with
    | [] => ""
    | arguments => "(" ++ commas arguments ++ ")"
  return decorators ++ [lineAt depth ("class " ++ head.name ++ arguments ++ ":")]

/-- The text of a docstring. -/
def printDocstring (value : String) (marked : Bool) : String :=
  (if marked then "u" else "") ++ printInQuotes longQuotes value

/-- The line of an import from a module. -/
def importFromLine (module : Option String) (names : List Alias) (level : Nat) : String :=
  "from " ++ String.ofList (List.replicate level '.') ++ module.getD "" ++ " import " ++
    commas (names.map Alias.print)

/-- The line of an annotated assignment. A target that is a name in parentheses keeps them. -/
def annAssignLine (target annotation : Expr) (value : Option Expr) (isBare : Bool) :
    Except Unprintable String := do
  let text ← target.text
  let enclosed := match target with
    | .name _ => if isBare then text else "(" ++ text ++ ")"
    | _ => text
  return enclosed ++ ": " ++ (← annotation.text) ++ (← printOption false Level.test " = " value)

/-- The line of a `raise` statement. -/
def raiseLine (exception cause : Option Expr) : Except Unprintable String := do
  let exception ← printOption false Level.test " " exception
  let cause ← printOption false Level.test " from " cause
  return "raise" ++ exception ++ cause

/-- The line that opens an exception handler. -/
def handlerLine (isStar : Bool) (type : Option Expr) (name : Option String) :
    Except Unprintable String := do
  let type ← printOption false Level.test " " type
  let name := match name with
    | some name => " as " ++ name
    | none => ""
  return (if isStar then "except*" else "except") ++ type ++ name ++ ":"

/-! ### Statements -/

mutual

/-- The lines of a statement at a depth. -/
def Stmt.lines (depth : Nat) : Stmt → Except Unprintable (List String)
  | .functionDef head body => do
    -- A blank line stands in front of every definition.
    return "" :: (← head.lines depth) ++ (← documentedLines (depth + 1) body)
  | .classDef head body => do
    return "" :: (← head.lines depth) ++ (← documentedLines (depth + 1) body)
  | .returnValue value => do
    return [lineAt depth ("return" ++ (← printOption false Level.test " " value))]
  | .delete targets => do
    return [lineAt depth ("del " ++ commas (← printAll false targets))]
  | .assign targets value => do
    let targets ← targets.mapM fun target => return (← target.print false Level.tuple) ++ " = "
    return [lineAt depth (String.join targets ++ (← value.text))]
  | .augAssign target operator value => do
    let target ← target.text
    return [lineAt depth (target ++ " " ++ operator.symbol ++ "= " ++ (← value.text))]
  | .annAssign target annotation value isBare => do
    return [lineAt depth (← annAssignLine target annotation value isBare)]
  | .forLoop isAsync target source body orElse => do
    let target ← target.print false Level.tuple
    let source ← source.text
    let opening := if isAsync then "async for " else "for "
    let line := opening ++ target ++ " in " ++ source ++ ":"
    return lineAt depth line :: (← bodyLines (depth + 1) body) ++
      (← optionalLines depth "else:" orElse)
  | .whileLoop test body orElse => do
    let line := "while " ++ (← test.text) ++ ":"
    return lineAt depth line :: (← bodyLines (depth + 1) body) ++
      (← optionalLines depth "else:" orElse)
  | .branch test body orElse => do
    let line := "if " ++ (← test.text) ++ ":"
    return lineAt depth line :: (← bodyLines (depth + 1) body) ++ (← elseLines depth orElse)
  | .withBlock isAsync items body => do
    let items ← items.mapM WithItem.print
    let opening := if isAsync then "async with " else "with "
    let line := opening ++ commas items ++ ":"
    return lineAt depth line :: (← bodyLines (depth + 1) body)
  | .matchBlock subject arms => do
    let line := "match " ++ (← subject.text) ++ ":"
    return lineAt depth line :: (← armLines (depth + 1) arms)
  | .raise exception cause => do
    return [lineAt depth (← raiseLine exception cause)]
  | .tryBlock isStar body handlers orElse final => do
    return lineAt depth "try:" :: (← bodyLines (depth + 1) body) ++
      (← handlerLines depth isStar handlers) ++
      (← optionalLines depth "else:" orElse) ++ (← optionalLines depth "finally:" final)
  | .assertion test message => do
    let test ← test.text
    return [lineAt depth ("assert " ++ test ++ (← printOption false Level.test ", " message))]
  | .importModules names => return [lineAt depth ("import " ++ commas (names.map Alias.print))]
  | .importFrom module names level => return [lineAt depth (importFromLine module names level)]
  | .globalNames names => return [lineAt depth ("global " ++ commas names)]
  | .nonlocalNames names => return [lineAt depth ("nonlocal " ++ commas names)]
  | .expression value => do
    return [lineAt depth (← value.print false Level.yield)]
  | .pass => return [lineAt depth "pass"]
  | .breakLoop => return [lineAt depth "break"]
  | .continueLoop => return [lineAt depth "continue"]

/-- The lines of a body. -/
def bodyLines (depth : Nat) : List Stmt → Except Unprintable (List String)
  | [] => .ok []
  | first :: rest => return (← first.lines depth) ++ (← bodyLines depth rest)

/-- The lines of a body that a docstring may open. -/
def documentedLines (depth : Nat) : List Stmt → Except Unprintable (List String)
  | [] => .ok []
  | .expression (.constant (.text value marked)) :: rest =>
    -- Only the first line of its own holds a docstring; further texts are expressions.
    return lineAt depth (printDocstring value marked) :: (← bodyLines depth rest)
  | first :: rest => return (← first.lines depth) ++ (← bodyLines depth rest)

/-- The lines of a part that is left out when its body is empty. -/
def optionalLines (depth : Nat) (opening : String) :
    List Stmt → Except Unprintable (List String)
  | [] => .ok []
  | first :: rest =>
    return lineAt depth opening :: (← first.lines (depth + 1)) ++ (← bodyLines (depth + 1) rest)

/-- The lines behind the body of a branch: a single branch continues it. -/
def elseLines (depth : Nat) : List Stmt → Except Unprintable (List String)
  | [] => .ok []
  | [.branch test body orElse] => do
    let line := "elif " ++ (← test.text) ++ ":"
    return lineAt depth line :: (← bodyLines (depth + 1) body) ++ (← elseLines depth orElse)
  | first :: rest =>
    return lineAt depth "else:" :: (← first.lines (depth + 1)) ++ (← bodyLines (depth + 1) rest)

/-- The lines of the arms of a match statement. -/
def armLines (depth : Nat) : List (MatchArm (List Stmt)) → Except Unprintable (List String)
  | [] => .ok []
  | ⟨pattern, guard, body⟩ :: rest => do
    let pattern ← pattern.print Level.test
    let guard ← printOption false Level.test " if " guard
    let line := "case " ++ pattern ++ guard ++ ":"
    return lineAt depth line :: (← bodyLines (depth + 1) body) ++ (← armLines depth rest)

/-- The lines of exception handlers. -/
def handlerLines (depth : Nat) (isStar : Bool) :
    List (Handler (List Stmt)) → Except Unprintable (List String)
  | [] => .ok []
  | ⟨type, name, body⟩ :: rest => do
    let line ← handlerLine isStar type name
    return lineAt depth line :: (← bodyLines (depth + 1) body) ++
      (← handlerLines depth isStar rest)

end

/-- Lines as one text. A blank line at the very start is left out. -/
def joinLines : List String → String
  | "" :: lines => "\n".intercalate lines
  | lines => "\n".intercalate lines

/-- The text of a statement on its own. -/
def Stmt.text (stmt : Stmt) : Except Unprintable String :=
  return joinLines (← stmt.lines 0)

/-- The text of a module, closed by a line feed. -/
def printModule (body : List Stmt) : Except Unprintable String :=
  return joinLines (← documentedLines 0 body) ++ "\n"

end EntryPoint.Syntax
