/-
# Parameters of handlers

A tag may name a handler and give it parameters: the name of an action, followed
or not by arguments in parentheses, or a value. Arguments and values are literal:
constants, signed and complex numbers, and displays of these.

## Main definitions

* `literalNumber?` - whether a number is imaginary.
* `Expr.isLiteral` - whether an expression is a literal value.
* `areParameters` - whether a text gives the parameters of a handler.
-/

import EntryPoint.Syntax.Reader.Statement

namespace EntryPoint.Syntax

/-- Whether a number without sign is imaginary; none for what is no number. -/
def literalNumber? : Expr → Option Bool
  | .constant (.integer _) | .constant (.real _) => some false
  | .constant (.imaginary _) => some true
  | _ => none

/-- Whether a number with or without sign is imaginary; none for what is no number. -/
def signedLiteral? : Expr → Option Bool
  | .unary .plus operand | .unary .minus operand => literalNumber? operand
  | other => literalNumber? other

/-- Whether an expression adds an imaginary number to a real one or takes it off. -/
def isComplexLiteral : Expr → Bool
  | .binary left .add right | .binary left .sub right =>
    signedLiteral? left = some false && literalNumber? right = some true
  | _ => false

mutual

/-- Whether a literal value may be an element of a set or a key. -/
def Expr.isKeyLiteral : Expr → Bool
  | .tuple elements => areKeyLiterals elements
  | .list _ | .set _ | .dict _ | .call _ _ _ => false
  | _ => true

/-- Whether literal values may all be elements of a set or keys. -/
def areKeyLiterals : List Expr → Bool
  | [] => true
  | first :: rest => first.isKeyLiteral && areKeyLiterals rest

end

mutual

/-- Whether an expression is a literal value. -/
def Expr.isLiteral : Expr → Bool
  | .constant _ => true
  | .tuple elements | .list elements => areLiterals elements
  | .set elements => areLiterals elements && areKeyLiterals elements
  | .call (.name "set") [] [] => true
  | .dict items => areLiteralItems items
  | .unary operator operand => (signedLiteral? (.unary operator operand)).isSome
  | .binary left operator right => isComplexLiteral (.binary left operator right)
  | _ => false

/-- Whether expressions are all literal values. -/
def areLiterals : List Expr → Bool
  | [] => true
  | first :: rest => first.isLiteral && areLiterals rest

/-- Whether the items of a dictionary are literal values, none of them spread. -/
def areLiteralItems : List (Option Expr × Expr) → Bool
  | [] => true
  | (none, _) :: _ => false
  | (some key, value) :: rest =>
    key.isLiteral && key.isKeyLiteral && value.isLiteral && areLiteralItems rest

end

end EntryPoint.Syntax

namespace EntryPoint.Console

open Syntax Text

/-- Whether a text is a literal value. -/
def isLiteralText (text : List Char) : Bool :=
  match readExpression (String.ofList text) with
  | .ok value => value.isLiteral
  | .error _ => false

/-- Whether a text gives the parameters of a handler: nothing, an action, an action with arguments,
or a value. -/
def areParameters (text : List Char) : Bool :=
  let text := trimBlanks text
  let arguments := text.dropWhile fun c => c = '.' || isIdentifierRest c
  if arguments.isEmpty then true
  else if arguments.head? = some '(' && arguments.getLast? = some ')' && !arguments.contains '\n'
  then isLiteralText arguments
  else isLiteralText text

end EntryPoint.Console
