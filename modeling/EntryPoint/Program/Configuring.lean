/-
# The tasks on options

The options can be shown as they are in effect, one of them can be set for all
projects, and all of them can be reset to the defaults.

## Main definitions

* `showTask` - shows the options.
* `coerced`, `setTask` - sets an option.
* `confirm`, `resetTask` - resets the options.
-/

import EntryPoint.Arguments.Request
import EntryPoint.Program.Report
import EntryPoint.Settings.Layers

namespace EntryPoint

open Document Text

variable {m : Type → Type} [Monad m] [MonadExceptOf Fault m] [Host m]

/-! ### Showing -/

/-- Shows where the settings are stored and the options in effect. -/
def showTask (console : Console) : m Unit := do
  report console .info ("Config directory: " ++ (← settingsDirectory).text)
  let options ← resolveOptions []
  Host.write .output (console.dataText options.toValue)

/-! ### Setting -/

/-- The words that switch an option on. -/
def onWords : List String := ["true", "1", "yes"]

/-- The setting that a text gives to an option: the text itself for a name, and for a switch whether
it is a word that switches on. -/
def coerced (key : OptionKey) (value : String) : Setting :=
  if key.isName then .text value else .truth (onWords.contains (lowerAscii value))

/-- Sets an option for all projects. An unknown option or a value that does not fit is an error and
changes nothing. -/
def setTask (console : Console) (name value : String) : m Int := do
  match OptionKey.ofName? name with
  | none =>
    report console .error ("Unknown render option: " ++ name)
    return FailureKind.usage.exitCode
  | some key =>
    let setting := coerced key value
    -- The setting is checked along with those stored before, and nothing is stored unless all fit.
    let settings : Settings := Association.insert (← loadSettings) name setting
    match Options.merge (.overrides settings.toOverrides) with
    | .error rejection =>
      report console .error ("Validation error: " ++ rejection.text)
      return FailureKind.usage.exitCode
    | .ok _ =>
      saveSettings settings
      report console .success ("Set " ++ name ++ " = " ++ setting.display)
      return 0

/-! ### Resetting -/

/-- The answer that a line gives to a question that is answered with no unless it says otherwise. -/
def answerOf? (line : String) : Option Bool :=
  let word := String.ofList (trimBlanks (lowerAscii line).toList)
  if word = "y" || word = "yes" then some true
  else if word = "n" || word = "no" || word = "" then some false
  else none

/-- Asks a question until a line answers it, so many times at most; nothing if the input ends. -/
def confirmWithin (question : String) : Nat → m (Option Bool)
  | 0 => return none
  | attempts + 1 => do
    Host.write .output (question ++ " [y/N]: ")
    match ← Host.readLine with
    | none => return none
    | some line =>
      match answerOf? line with
      | some answer => return some answer
      | none =>
        Host.write .output "Error: invalid input\n"
        confirmWithin question attempts

/-- Asks a question until a line answers it; nothing if the input ends. -/
def confirm (question : String) : m (Option Bool) := do
  -- Every line but the one that ends the input can be an invalid answer.
  confirmWithin question ((← Host.lineBound) + 1)

/-- Resets all options for all projects, unless the user does not want it. -/
def resetTask (console : Console) (isForced : Bool) : m Int := do
  let answer ← if isForced then pure (some true)
    else confirm "Reset all render options to defaults?"
  match answer with
  | none =>
    Host.write .diagnostics "Aborted.\n"
    return 1
  | some false =>
    report console .info "Cancelled."
    return 0
  | some true =>
    saveSettings []
    report console .success "Configuration reset to defaults."
    return 0

end EntryPoint
