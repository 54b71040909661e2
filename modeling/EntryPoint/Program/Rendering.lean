/-
# The render task

A signature document becomes the module of an entry point, which is printed or
written to a file. Nothing is printed or written unless all of it can be
rendered.

## Main definitions

* `Rendering` - what has been rendered.
* `prepare` - renders what a request asks for.
* `renderTask` - the task.
-/

import EntryPoint.Arguments.Request
import EntryPoint.Program.Report
import EntryPoint.Render
import EntryPoint.Settings.Layers
import EntryPoint.Source

namespace EntryPoint

open Document Text

variable {m : Type → Type} [Monad m] [MonadExceptOf Fault m] [Host m]

/-- What has been rendered: the text of a module, where it belongs, and what it was made with. -/
structure Rendering where
  source : String
  target : Path
  options : Options
  context : Context

/-- A path from the root, by way of the current directory if it does not start there. -/
def absolutePath (path : Path) : m Path :=
  return .ofNames (path.resolve (← Host.directory))

/-- The directory that references in a document are seen from, if the document is a file. -/
def referenceBase (name : String) : m (Option Path) :=
  match SignatureSource.ofName name with
  | .file name => return some (← absolutePath (.ofString name)).parent
  | _ => return none

/-- The context of a request: the module from the standard input is inlined, and without arguments
there are none to fix. -/
def RenderRequest.context (request : RenderRequest) : Context where
  inlines := request.entry = some standardInput
  args := if request.args.isEmpty then none else some request.args

/-- The path that a request asks for, or the module of the entry point's name in the current
directory. -/
def targetPath (request : RenderRequest) (options : Options) : m Path :=
  absolutePath (.ofString (request.output.getD (options.functionName ++ ".py")))

/-- The statements of the module of the function, if the request names it. -/
def entryBody (request : RenderRequest) : m (List Syntax.Stmt) :=
  match request.entry with
  | none => return []
  | some name => return (← loadModule name none).body

/-- The trace of a render. -/
def renderTrace (signature : Signature) (options : Options) : String :=
  "Rendering '" ++ signature.name ++ "' with options " ++ options.toValue.display

/-- Renders what a request asks for. -/
def prepare (console : Console) (request : RenderRequest) : m Rendering := do
  if request.signature = standardInput ∧ request.entry = some standardInput then
    stop .usage "The signature and the entry module cannot both come from stdin"
  let options ← resolveOptions request.overrides
  let document ← loadSignature request.signature
  let signature ← orStop (extract document (← referenceBase request.signature))
  -- The place of the module decides how its imports are spelled, even where it is only printed.
  let target ← targetPath request options
  let context := request.context
  let entry ← entryBody request
  if context.args.isSome ∧ ¬ invokes options context then
    report console .warning "--arg has no effect unless the module is runnable or read from stdin"
  report console .trace (renderTrace signature options)
  let site : Site := ⟨← Host.directory, ← modulesNamed options.lib, target, entry⟩
  return ⟨← orStop (renderSource site signature options context), target, options, context⟩

/-- Renders a module and prints it, or writes it where the request says so. -/
def renderTask (console : Console) (request : RenderRequest) : m Unit := do
  let rendering ← prepare console request
  -- Nothing has been written so far, so that a render that fails leaves the output as it was.
  if request.output.isNone then Host.write .output (console.codeText rendering.source)
  else
    replaceFile rendering.target rendering.source
    report console .success ("Wrote " ++ rendering.target.text)
    if !invokes rendering.options rendering.context then
      report console .suggestion
        ("Import " ++ rendering.options.functionName ++ " from it, or re-run with --runnable")

end EntryPoint
