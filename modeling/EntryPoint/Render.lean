/-
# Rendering

A signature becomes the module of an entry point: a chain of calls on the
library registers the command and parses the arguments, and the module is built
around it.

## Main definitions

* `checkModuleNames` - no name of the user collides with a name of the module.
* `chainCalls` - the calls of the chain.
* `render` - the statements of the module.
* `renderSource` - the text of the module.
-/

import EntryPoint.Command
import EntryPoint.Module.Wrapper
import EntryPoint.Syntax.Printer.Statement

namespace EntryPoint

open Syntax Text

/-- The names that a generated module binds for itself. -/
def moduleReserved (options : Options) : List String :=
  [options.functionName, options.lib] ++ runtimeModules

/-- Checks the exports of a file. -/
def checkExports (reserved : List String) (reference : Path × Exports) : Except Fault Unit :=
  -- All exports are checked, also those that are not imported in the end.
  match (reference.2.default ++ reference.2.named).find? reserved.contains with
  | some name =>
    fail .invariant ("Export " ++ quote name ++ " of " ++ reference.1.text ++
      " collides with a name the generated module binds at top level")
  | none => .ok ()

/-- Checks that no name of the user collides with a name of the module. -/
def checkModuleNames (signature : Signature) (options : Options) : Except Fault Unit := do
  let reserved := moduleReserved options
  if reserved.contains signature.name then
    fail .invariant ("Function name " ++ quote signature.name ++
      " collides with a name the generated module binds at top level")
  else signature.references.forM (checkExports reserved)

/-- A call that an option may leave out. -/
def optionalCall (included : Bool) (name : String) (args : List Expr) : List Expr :=
  if included then [callOf name args] else []

/-- The calls of the chain in order. -/
def chainCalls (signature : Signature) (options : Options) : Except Fault (List Expr) := do
  let command ← command signature
  .ok (optionalCall options.strict "strict" [] ++ [command] ++
    optionalCall options.help "help" [] ++
    optionalCall options.helpAlias "alias" [textExpr "help", textExpr "h"] ++
    optionalCall options.version "version" [] ++ [callOf "parse" [.name argsName]])

/-- The body of the entry point: the callbacks, then the chain. -/
def renderBody (signature : Signature) (options : Options) : Except Fault (List Stmt) := do
  let chained ← chain (← chainCalls signature options) (.name options.lib)
  .ok ((← callbacks signature) ++ [.expression chained])

/-- The statements of the module of an entry point. -/
def render (site : Site) (signature : Signature) (options : Options) (context : Context) :
    Except Fault (List Stmt) := do
  checkModuleNames signature options
  wrap site signature options context (← renderBody signature options)

/-- The text of the module of an entry point. -/
def renderSource (site : Site) (signature : Signature) (options : Options) (context : Context) :
    Except Fault String := do
  orUnprintable (printModule (← render site signature options context))

end EntryPoint
