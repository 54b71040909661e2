/-
# Tokens

The words of a module: names, reserved words, numbers, literals, symbols, and the
marks that its lines and their indentation leave behind.

## Main definitions

* `Literal` - a quoted literal as it is written.
* `Token` - the words.
-/

import EntryPoint.Syntax.Tree

namespace EntryPoint.Syntax

/-- What a quoted literal holds. -/
inductive LiteralKind
  | text
  | bytes
  | parts
  deriving DecidableEq

/-- A quoted literal: what it holds, whether backslashes are ordinary characters, whether it bears
the mark `u`, and the characters between its quotes. -/
structure Literal where
  kind : LiteralKind
  isRaw : Bool
  marked : Bool
  body : List Char
  deriving DecidableEq

/-- A word of a module. A name is given in its normal form, with a mark whether it is written
so. -/
inductive Token
  | name (text : String) (isNormal : Bool)
  | keyword (word : String)
  | number (value : Constant)
  | literal (literal : Literal)
  | symbol (text : String)
  | newline
  | indent
  | dedent
  deriving DecidableEq

/-- The symbols, longer ones first. -/
def symbols : List String :=
  ["...", "**=", "//=", "<<=", ">>=",
    "!=", "%=", "&=", "**", "*=", "+=", "-=", "->", "//", "/=", ":=", "<<", "<=", "==", ">=", ">>",
    "@=", "^=", "|=",
    "%", "&", "(", ")", "*", "+", ",", "-", ".", "/", ":", ";", "<", "=", ">", "@", "[", "]", "^",
    "\x7b", "|", "\x7d", "~"]

/-- The deepest nesting of brackets. -/
def maxBrackets : Nat := 200

/-- The most levels of indentation, the outermost included. -/
def maxIndentations : Nat := 100

end EntryPoint.Syntax
