/-
# Layers of options

Options are set in four layers: by what is stored for all projects, by the file
of the project in the current directory, by variables of the environment, and by
what is given for one run. A later layer wins over the earlier ones. Only what
wins must fit its option, but no layer may name an unknown one.

## Main definitions

* `loadProject` - the document of the project.
* `layered` - four layers laid over each other.
* `resolveOptions` - the options of a run.
-/

import EntryPoint.Association
import EntryPoint.Settings.Store

namespace EntryPoint

open Document

variable {m : Type → Type} [Monad m] [MonadExceptOf Fault m] [Host m]

/-! ### The layers -/

/-- The name of the file of a project. -/
def projectFileName : String := "clisynth.json"

/-- The document of the project, if its file is there. -/
def loadProject : m (Option (List (Value × Value))) := do
  let path := (Path.ofNames (← Host.directory)).child projectFileName
  if ← isFile path then
    match ← readJsonFile path with
    | .ok (.mapping pairs) => return some pairs
    | .ok _ => stop .configuration ("Project config at " ++ path.text ++ " must be a JSON object")
    | .error reason =>
      stop .configuration ("Invalid project config at " ++ path.text ++ ": " ++ reason)
  else return none

/-- The layer in the document of a project. A value that does not count as present sets nothing. -/
def projectLayer (project : List (Value × Value)) : Except Fault Overrides :=
  let value := Value.lookupD Settings.key project
  if !value.isTruthy then .ok []
  else
    match value with
    | .mapping pairs => .ok (.ofPairs pairs)
    | _ => fail .configuration "Project config 'render' must be an object"

/-- The variables of the environment that set options. -/
def optionVariables : List (String × OptionKey) :=
  [("CLISYNTH_LIB", .lib), ("CLISYNTH_FUNCTION_NAME", .functionName)]

/-- The layer of a variable; the empty text sets nothing. -/
def variableLayer (key : OptionKey) : Option String → Overrides
  | none | some "" => []
  | some value => [(key.name, .text value)]

/-- The layer of the environment. -/
def environmentLayer : m Overrides := do
  let layers ← optionVariables.mapM fun (name, key) => do
    return variableLayer key (← Host.environment? name)
  return layers.flatten

/-- Four layers laid over each other. Nulls among what is given set nothing. -/
def layered (stored project environment given : Overrides) : Overrides :=
  let given := given.filter fun (_, value) => !(value matches .null)
  -- A later layer goes before an earlier one.
  [project, environment, given].foldl Association.update stored

/-! ### The options of a run -/

/-- The options that overrides give; a rejection is a failure of the configuration. -/
def optionsOf (overrides : Overrides) : Except Fault Options :=
  match Options.merge (.overrides overrides) with
  | .ok merged => .ok merged.options
  | .error rejection => fail .configuration ("Invalid render options: " ++ rejection.text)

/-- The options of a run, with what is given for it. -/
def resolveOptions (given : Overrides) : m Options := do
  let stored ← loadSettings
  let project ← match ← loadProject with
    | none => pure []
    | some document => orStop (projectLayer document)
  let environment ← environmentLayer
  -- What is stored or set elsewhere is checked together with what is given, in the end.
  orStop (optionsOf (layered stored.toOverrides project environment given))

end EntryPoint
