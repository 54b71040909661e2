/-
# The places of the program's own files

Where a system follows the base directory convention, variables of the
environment name the directories for settings and data, and a variable that is
unset or empty stands for a directory below the home of the user. Elsewhere one
directory of the home holds both. Asking for a directory makes it.

## Main definitions

* `homeDirectory` - the home of the user.
* `settingsDirectory` - the directory of the settings.
* `dataDirectory` - the directory of the data.
-/

import EntryPoint.Host

namespace EntryPoint

variable {m : Type → Type} [Monad m] [MonadExceptOf Fault m] [Host m]

/-- The name of the program's directories. -/
def programName : String := "clisynth"

/-- The home where no variable names one. -/
def fallbackHome : String := "/root"

/-- Whether a system follows the base directory convention. -/
def usesBaseDirectories (system : String) : Bool :=
  system = "Linux" || system.endsWith "BSD"

/-- The path to the home that a variable names: without slashes at its end, and the root if nothing
is left. -/
def homeOf (value : String) : Path :=
  let kept := (value.toList.reverse.dropWhile (· = '/')).reverse
  if kept.isEmpty then .ofString "/" else .ofString (String.ofList kept)

/-- The home of the user. -/
def homeDirectory : m Path :=
  return homeOf ((← Host.environment? "HOME").getD fallbackHome)

/-- The base directory that a variable names, or the one below the home. -/
def baseDirectory (name : String) (below : List String) : m Path := do
  let value := (← Host.environment? name).getD ""
  if value.isEmpty then return below.foldl Path.child (← homeDirectory)
  else return .ofString value

/-- The program's directory below a base directory, or elsewhere in the home. -/
def programDirectory (name : String) (below elsewhere : List String) : m Path := do
  if usesBaseDirectories (← Host.system) then
    return (← baseDirectory name below).child programName
  else return elsewhere.foldl Path.child (← homeDirectory)

/-- Makes a directory and gives its path. -/
def makeReady (path : Path) : m Path := do
  makeDirectories path
  return path

/-- The directory of the settings. -/
def settingsDirectory : m Path := do
  makeReady (← programDirectory "XDG_CONFIG_HOME" [".config"] ["." ++ programName])

/-- The directory of the data. -/
def dataDirectory : m Path := do
  makeReady (← programDirectory "XDG_DATA_HOME" [".local", "share"] ["." ++ programName, "logs"])

end EntryPoint
