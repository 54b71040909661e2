/-
# Reports

What the program tells its user goes through its console, and a fault that it did
not foresee is written to a log of its own.

## Main definitions

* `openConsole` - the console of a run.
* `report` - writes a diagnostic.
* `conclude` - reports a fault and gives the exit code.
-/

import EntryPoint.Console
import EntryPoint.Settings.Place

namespace EntryPoint

variable {m : Type → Type} [Monad m] [MonadExceptOf Fault m] [Host m]

/-- The console of a run. -/
def openConsole (flags : ConsoleFlags) : m Console := do
  let isTerminal ← Host.isTerminal
  let noColor ← Host.environment? "NO_COLOR"
  let term ← Host.environment? "TERM"
  return .ofFlags flags { isTerminal, noColor, term }

/-- Writes a diagnostic. -/
def report (console : Console) (diagnostic : Diagnostic) (message : String) : m Unit := do
  Host.write .diagnostics (← orStop (console.diagnostic diagnostic message))

/-! ### Faults -/

/-- What a fault that is not foreseen is about. -/
def UnforeseenKind.text : UnforeseenKind → String
  | .malformedExpression => "malformed expression"
  | .value => "unsuitable value"
  | .type => "value of an unsuitable type"
  | .overflow => "value out of range"
  | .unknownTruth => "unknown truth value"
  | .emptyNumeral => "number without digits"
  | .unreadableMoment => "unreadable date"
  | .decoding => "bytes that spell no text"
  | .markup => "unmatched markup"
  | .isDirectory => "directory in place of a file"
  | .notDirectory => "file in place of a directory"
  | .fileExists => "file exists"
  | .fileMissing => "no such file or directory"
  | .refused => "refused by the system"

/-- The text of a fault in a log. -/
def Fault.text : Fault → String
  | .failure known => known.message
  | .rejection refused => refused.text
  | .unforeseen kind => kind.text

/-- Writes a fault to a log named after the moment; gives the path of the log. -/
def writeCrashLog (fault : Fault) : m Path := do
  let logs := (← dataDirectory).child "logs"
  makeDirectories logs
  let log := logs.child ("crash-" ++ (← Host.moment) ++ ".log")
  Host.writeFile log (Text.utf8Bytes (fault.text ++ "\n"))
  return log

/-- Reports a fault and gives the exit code: its own for a failure, the general one for anything
else, which is logged. -/
def conclude (console : Console) : Fault → m Int
  | .failure failure => do
    report console .error failure.message
    return failure.exitCode
  | fault => do
    -- The log comes first, since what is reported names its path.
    let log ← writeCrashLog fault
    report console .error ("Unexpected error. Debug log: " ++ log.text)
    return FailureKind.general.exitCode

end EntryPoint
