/-
# The module around an entry point

A generated module imports what it needs, makes the function available by
inlining or importing it, exports the entry point, defines it, and calls it where
asked to.

## Main definitions

* `ModuleSource` - how the function becomes available.
* `wrapperFunction` - the entry point.
* `invocation` - the call of the entry point.
* `wrap` - the statements of the module.
-/

import EntryPoint.Module.Library
import EntryPoint.Module.References

namespace EntryPoint

open Syntax

/-- Where a generated module stands: the current directory, the modules that can be found, the file
that it is written to, and the statements of the module of the function. -/
structure Site where
  directory : List String
  modules : ModuleSpace
  output : Path
  entry : List Stmt

/-- How the function becomes available: its module is inlined, or it is imported. -/
inductive ModuleSource
  | inlined (statements : List Stmt)
  | imported (imports : List Stmt)

/-- The parameter of the entry point. -/
def argsName : String := "args"

/-- The modules that a generated module may bind for its own use. -/
def runtimeModules : List String := ["sys", "asyncio", "importlib"]

/-- Chooses how the function becomes available. -/
def moduleSource (site : Site) (signature : Signature) (context : Context) :
    Except Fault ModuleSource :=
  if context.inlines then .ok (.inlined site.entry)
  else return .imported (← referenceImports site.directory site.output signature)

/-- Whether a statement changes the language of its module. Such statements come first. -/
def isFutureImport : Stmt → Bool
  | .importFrom source _ _ => source = some "__future__"
  | _ => false

/-- The statements of the function's module that open the generated module. -/
def ModuleSource.opening : ModuleSource → List Stmt
  | .inlined statements => statements.filter isFutureImport
  | .imported _ => []

/-- The other statements that make the function available. -/
def ModuleSource.remainder : ModuleSource → List Stmt
  | .inlined statements => statements.filter (!isFutureImport ·)
  | .imported imports => imports

/-- The list of the names that a generated module exports. -/
def exportsList (functionName : String) : Stmt :=
  assignName "__all__" (.list [textExpr functionName])

/-- The number one. -/
def one : Expr := .constant (.integer 1)

/-- The entry point: a function of a list of texts that stands for the arguments of the program. -/
def wrapperFunction (body : List Stmt) (options : Options) : Stmt :=
  let parameter : Parameter Expr :=
    { name := argsName
      annotation := some (.subscript (.name "list") (.name "str"))
      default := some
        (.subscript (attributes (.name "sys") ["argv"]) (.slice (some one) none none)) }
  .functionDef
    { isAsync := options.asyncFunction
      name := options.functionName
      parameters := { regular := [parameter] }
      returns := some (.constant .nothing) }
    body

/-- The call of the entry point, with fixed arguments or none. An asynchronous one is run to its
end. -/
def invocation (name : String) (args : Option (List String)) (isAsync : Bool) : Stmt :=
  let call := callOf name (args.map fun args => Expr.list (args.map textExpr)).toList
  .expression (if isAsync then .call (attributes (.name "asyncio") ["run"]) [call] [] else call)

/-- Whether a generated module calls its entry point. -/
def invokes (options : Options) (context : Context) : Bool :=
  options.runnable || context.inlines

/-- The statements of a module around the body of its entry point. -/
def wrap (site : Site) (signature : Signature) (options : Options) (context : Context)
    (body : List Stmt) : Except Fault (List Stmt) := do
  let source ← moduleSource site signature context
  let library ← libraryImports site.modules options.lib options.lib context
  let runtime := importModule "sys" "" ::
    (if options.asyncFunction && invokes options context then [importModule "asyncio" ""] else [])
  let call :=
    if invokes options context then
      [invocation options.functionName context.args options.asyncFunction]
    else []
  -- What changes the language must open the module; all else of the function's module comes behind
  -- the library, which it may use.
  .ok (source.opening ++ runtime ++ library ++ source.remainder ++
    [exportsList options.functionName, wrapperFunction body options] ++ call)

end EntryPoint
