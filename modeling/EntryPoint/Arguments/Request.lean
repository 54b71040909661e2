/-
# Requests

What the arguments of the program ask for: one of its tasks, help on it, its
version, or nothing that it understands. Options that ask for help or for the
version count before anything else is checked, the first of them alone.

## Main definitions

* `Task` - the tasks of the program.
* `Manner` - how the program is to behave whatever the task.
* `Request.ofArguments` - the request of arguments.
-/

import EntryPoint.Arguments.Grammar
import EntryPoint.Association
import EntryPoint.Console
import EntryPoint.Options

namespace EntryPoint

open Arguments Document

/-- What a render is asked for: the name of the document, the name of the function's module, the
file to write, overrides of the options, and arguments for the call of the entry point. -/
structure RenderRequest where
  signature : String
  entry : Option String := none
  output : Option String := none
  overrides : Overrides := []
  args : List String := []

/-- A request with one option overridden. -/
def RenderRequest.override (request : RenderRequest) (key : OptionKey) (value : Value) :
    RenderRequest :=
  { request with overrides := Association.insert request.overrides key.name value }

/-- The tasks of the program. -/
inductive Task
  | render (request : RenderRequest)
  | showOptions
  | setOption (name value : String)
  | resetOptions

/-- How the program is to behave: the flags of its console, and whether to do without
confirmation. -/
structure Manner where
  console : ConsoleFlags := {}
  isForced : Bool := false

/-- The pages of help. -/
inductive HelpPage
  | program
  | render
  | config
  | showOptions
  | setOption
  | resetOptions
  deriving DecidableEq

/-- What arguments ask for. Help is also given, with an exit code of its own, where no argument says
what to do. -/
inductive Request
  | help (page : HelpPage) (exitCode : Int)
  | version
  | misuse (page : HelpPage)
  | task (manner : Manner) (task : Task)

namespace Request

/-! ### Options of the program -/

/-- The options in front of a task. -/
inductive ProgramOption
  | version
  | help
  | json
  | plain
  | noColor
  | quiet
  | verbose
  | force
  deriving DecidableEq

/-- Their spellings. -/
def programForms : List (OptionForm ProgramOption) :=
  [.flag "--version" .version, .flag "--help" .help, .flag "--json" .json, .flag "--plain" .plain,
    .flag "--no-color" .noColor, .flag "--quiet" .quiet, .flag "-q" .quiet,
    .flag "--verbose" .verbose, .flag "-v" .verbose, .flag "--force" .force, .flag "-f" .force]

/-- The request that counts before anything else, if one is given. -/
def earlyRequest? (given : List ProgramOption) : Option Request :=
  given.findSome? fun
    | .help => some (.help .program 0)
    | .version => some .version
    | _ => none

/-- The manner that options ask for. Where two formats are given, values come as JSON. -/
def mannerOf (given : List ProgramOption) : Manner where
  console :=
    { format :=
        if given.contains .json then some .json
        else if given.contains .plain then some .plain
        else none
      noColor := given.contains .noColor
      isQuiet := given.contains .quiet
      isVerbose := given.contains .verbose }
  isForced := given.contains .force

/-! ### Options of the render task -/

/-- The options of the render task. -/
inductive RenderOption
  | help
  | entry (name : String)
  | output (path : String)
  | name (key : OptionKey) (value : String)
  | switch (key : OptionKey) (value : Bool)
  | arg (value : String)

/-- The two spellings of a switch. -/
def switchForms (key : OptionKey) (on off : String) : List (OptionForm RenderOption) :=
  [.flag on (.switch key true), .flag off (.switch key false)]

/-- The spellings of the options of the render task. -/
def renderForms : List (OptionForm RenderOption) :=
  [.flag "--help" .help, .value "--entry" .entry, .value "-e" .entry,
    .value "--output" .output, .value "-o" .output, .value "--lib" (.name .lib),
    .value "--function-name" (.name .functionName), .value "--arg" .arg, .value "-a" .arg] ++
  switchForms .strict "--strict" "--no-strict" ++
  switchForms .help "--help-command" "--no-help-command" ++
  switchForms .helpAlias "--help-alias" "--no-help-alias" ++
  switchForms .version "--version-command" "--no-version-command" ++
  switchForms .asyncFunction "--async" "--sync" ++
  switchForms .runnable "--runnable" "--no-runnable"

/-- Whether an option asks for help. -/
def RenderOption.isHelp : RenderOption → Bool
  | .help => true
  | _ => false

/-- A render with one more option. The last one of a kind counts, but all arguments do. -/
def addRenderOption (request : RenderRequest) : RenderOption → RenderRequest
  | .help => request
  | .entry name => { request with entry := some name }
  | .output path => { request with output := some path }
  | .name key value => request.override key (.text value)
  | .switch key value => request.override key (.truth value)
  | .arg value => { request with args := request.args ++ [value] }

/-- The request of the arguments of the render task. -/
def ofRenderArguments (manner : Manner) (arguments : List String) : Request :=
  match Reading.readArguments renderForms true arguments with
  | none => .misuse .render
  | some reading =>
    -- Help is given whatever else is wrong with the arguments, if they can be read at all.
    if reading.given.any (·.isHelp) then .help .render 0
    else
      match reading.operands with
      | [signature] => .task manner (.render (reading.given.foldl addRenderOption { signature }))
      | _ => .misuse .render

/-! ### The tasks on options -/

/-- The only option of the tasks on options asks for help. -/
def helpForms : List (OptionForm Unit) :=
  [.flag "--help" ()]

/-- The request of the arguments of a task that has no options; the operands say which. -/
def ofPlainArguments (manner : Manner) (page : HelpPage) (task? : List String → Option Task)
    (arguments : List String) : Request :=
  match Reading.readArguments helpForms true arguments with
  | none => .misuse page
  | some reading =>
    if reading.given.isEmpty then
      ((task? reading.operands).map (.task manner)).getD (.misuse page)
    else .help page 0

/-- The task of showing the options, which has no operands. -/
def showTask? : List String → Option Task
  | [] => some .showOptions
  | _ => none

/-- The task of setting an option to a value. -/
def setTask? : List String → Option Task
  | [name, value] => some (.setOption name value)
  | _ => none

/-- The task of resetting the options, which has no operands. -/
def resetTask? : List String → Option Task
  | [] => some .resetOptions
  | _ => none

/-- The request where no task has the name that stands behind the options: help may still be asked
for there. -/
def ofConfigRemainder (arguments : List String) : Request :=
  match Reading.readArguments helpForms false arguments with
  -- The only option asks for help.
  | some ⟨_ :: _, _⟩ => .help .config 0
  | _ => .misuse .config

/-- The request of the arguments of the tasks on options. -/
def ofConfigArguments (manner : Manner) (arguments : List String) : Request :=
  if arguments.isEmpty then .help .config 2
  else
    match Reading.readArguments helpForms false arguments with
    | none => .misuse .config
    | some ⟨_ :: _, _⟩ => .help .config 0
    | some ⟨[], []⟩ => .misuse .config
    | some ⟨[], name :: rest⟩ =>
      match name with
      | "show" => ofPlainArguments manner .showOptions showTask? rest
      | "set" => ofPlainArguments manner .setOption setTask? rest
      | "reset" => ofPlainArguments manner .resetOptions resetTask? rest
      | _ => ofConfigRemainder (name :: rest)

/-! ### All arguments -/

/-- The request where no task has the name that stands behind the options: help and the version may
still be asked for there. -/
def ofProgramRemainder (arguments : List String) : Request :=
  match Reading.readArguments programForms false arguments with
  | none => .misuse .program
  | some reading => (earlyRequest? reading.given).getD (.misuse .program)

/-- The request of the operands of the program: the name of a task, and its arguments. -/
def ofOperands (manner : Manner) : List String → Request
  | [] => .misuse .program
  | "render" :: rest => ofRenderArguments manner rest
  | "config" :: rest => ofConfigArguments manner rest
  | operands => ofProgramRemainder operands

/-- The request of arguments. -/
def ofArguments (arguments : List String) : Request :=
  if arguments.isEmpty then .help .program 2
  else
    match Reading.readArguments programForms false arguments with
    | none => .misuse .program
    | some reading =>
      (earlyRequest? reading.given).getD (ofOperands (mannerOf reading.given) reading.operands)

end Request

end EntryPoint
