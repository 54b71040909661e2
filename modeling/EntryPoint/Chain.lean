/-
# Chains of calls

Calls whose callee is a bare name are folded into a chain: each is made on what
the calls before it give, and the first one on the base.

## Main definitions

* `Call` - a call by itself.
* `attach` - one call made on a receiver.
* `chain` - all calls of a list made in order.
-/

import EntryPoint.Association
import EntryPoint.Failure
import EntryPoint.Syntax.Outline

namespace EntryPoint

open Syntax

/-- A call: what is called, with arguments by position and by name. -/
structure Call where
  callee : Expr
  args : List Expr := []
  keywords : List (Keyword Expr) := []

namespace Call

/-- The call as an expression. -/
def toExpr (call : Call) : Expr :=
  .call call.callee call.args call.keywords

/-- The call that an expression is, if it is one. -/
def ofExpr? : Expr → Option Call
  | .call callee args keywords => some { callee, args, keywords }
  | _ => none

/-- The call of a name. -/
def ofName (name : String) (args : List Expr) (keywords : List (Keyword Expr)) : Call :=
  { callee := .name name, args, keywords }

/-- The call of a name with arguments by name, of which the last value of a name counts. No argument
is named like the name of the call itself. -/
def build (name : String) (args : List Expr) (keywords : List (String × Expr)) :
    Except Fault Call :=
  if keywords.any (·.1 = "name") then failUnforeseen .type
  else
    .ok (ofName name args
      -- A name that is given again keeps its first place.
      ((Association.update [] keywords).map fun (name, value) => ⟨some name, value⟩))

end Call

/-- An expression that calls a name with arguments by position. -/
def callOf (name : String) (args : List Expr) : Expr :=
  (Call.ofName name args []).toExpr

/-- A text as an expression. -/
def textExpr (value : String) : Expr :=
  .constant (.text value false)

/-- The outcome of printing; a tree without text is not foreseen. -/
def orUnprintable {α : Type} : Except Unprintable α → Except Fault α
  | .ok value => .ok value
  | .error _ => failUnforeseen .value

/-- The failure for an expression that is no call of a bare name. -/
def unchainable (expr : Expr) : Except Fault Expr := do
  let found ← match expr with
    | .call callee _ _ => orUnprintable callee.outline
    | other => pure other.kind
  fail .invariant ("Only calls with a bare name callee can be chained, got " ++ found)

/-- A call of a bare name, made on a receiver. -/
def attach (receiver : Expr) : Expr → Except Fault Expr
  | .call (.name name) args keywords => .ok (.call (.attribute receiver name) args keywords)
  | other => unchainable other

/-- The calls of a list made in order, the first one on the base. -/
def chain (calls : List Expr) (base : Expr) : Except Fault Expr :=
  calls.foldlM attach base

end EntryPoint
