/-
# The program

The program does what its arguments ask for and ends with an exit code: zero if
all went well, the code of the failure that stopped it, or the general code for
anything that it did not foresee.

## Main definitions

* `perform` - performs a task.
* `run` - the program.
-/

import EntryPoint.Arguments.Help
import EntryPoint.Program.Configuring
import EntryPoint.Program.Rendering

namespace EntryPoint

variable {m : Type → Type} [Monad m] [MonadExceptOf Fault m] [Host m]

/-- The version of the program. -/
def programVersion : String := "0.1.0"

/-- Performs a task and gives the exit code. -/
def perform (console : Console) (manner : Manner) : Task → m Int
  | .render request => do
    renderTask console request
    return 0
  | .showOptions => do
    showTask console
    return 0
  | .setOption name value => setTask console name value
  | .resetOptions => resetTask console manner.isForced

/-- Does what a request asks for and gives the exit code. -/
def fulfil : Request → m Int
  | .help page exitCode => do
    Host.write .output page.text
    return exitCode
  | .version => do
    Host.write .output (programName ++ " " ++ programVersion ++ "\n")
    return 0
  | .misuse page => do
    Host.write .diagnostics (page.usage ++ "\n")
    return FailureKind.usage.exitCode
  | .task manner task => do
    let console ← openConsole manner.console
    tryCatch (perform console manner task) (conclude console)

/-- The program: from its arguments to its exit code. -/
def run (arguments : List String) : m Int :=
  fulfil (Request.ofArguments arguments)

end EntryPoint
