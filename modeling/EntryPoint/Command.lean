/-
# The command and its callbacks

An entry point registers one command. Its text lists the positionals, and two
functions go with it: the builder declares every argument on a parser, and the
handler takes the parsed arguments apart and calls the function.

## Main definitions

* `checkSignature` - what a signature must satisfy.
* `commandText` - the text of the command.
* `builder`, `handler` - the two functions.
* `command` - the call that registers the command.
-/

import EntryPoint.Signature

namespace EntryPoint

open Syntax Text

/-! ### Names -/

/-- The word of the command text for the program itself. -/
def programToken : String := "$0"

/-- The word of the command text for options. -/
def optionsToken : String := "[...options]"

def builderName : String := "builder"
def handlerName : String := "handler"

/-- The parameter of the builder. -/
def parserName : String := "parser"

/-- The parameter of the handler. -/
def argvName : String := "argv"

/-- The name that the handler gives to the options. -/
def optionsName : String := "options"

/-- The key under which parsed arguments keep what they could not assign. -/
def bucketKey : String := "_"

/-- The key under which parsed arguments keep the name of the program. -/
def programKey : String := "$0"

/-- The opening of the message about parsed arguments of another shape. -/
def mismatchMessage : String := "unexpected parsed arguments: "

/-! ### Conditions -/

/-- The names that the callbacks bind around the call of the function. -/
def shadowingNames (signature : Signature) : List String :=
  [builderName, handlerName, argvName] ++
    (if signature.options.isEmpty then [] else [optionsName])

/-- The names that no positional may have. -/
def positionalReserved (signature : Signature) : List String :=
  [bucketKey, argvName, signature.name] ++
    (if signature.options.isEmpty then [] else [optionsName])

/-- Checks the name of the function. -/
def checkName (signature : Signature) : Except Fault Unit :=
  if !isBindable signature.name then
    fail .invariant ("Function name " ++ quote signature.name ++ " is not a valid identifier")
  else if (shadowingNames signature).contains signature.name then
    fail .invariant ("Function name " ++ quote signature.name ++
      " is shadowed by a name bound in the generated callbacks")
  else .ok ()

/-- Checks a positional, given the names of those before it. -/
def checkPositional (signature : Signature) (seen : List String) (positional : Positional) :
    Except Fault Unit :=
  let shown := quote positional.name
  if !isBindable positional.name then
    fail .invariant ("Positional " ++ shown ++ " is not a valid identifier")
  else if seen.contains positional.name then fail .invariant ("Duplicate positional " ++ shown)
  -- Such a name would be bound by the handler to something else, or stand in for the function.
  else if (positionalReserved signature).contains positional.name then
    fail .invariant ("Positional " ++ shown ++ " collides with a name used by the handler")
  else if !positional.required then
    fail .unsupported ("Positional " ++ shown ++
      " is optional; optional positionals are not supported")
  else .ok ()

/-- Checks positionals in order, given the names of those before them. -/
def checkPositionals (signature : Signature) (seen : List String) :
    List Positional → Except Fault Unit
  | [] => .ok ()
  | first :: rest => do
    checkPositional signature seen first
    checkPositionals signature (first.name :: seen) rest

/-- Checks options in order, given the names of the positionals and of the options before them. -/
def checkOptions (positionals seen : List String) : List Flag → Except Fault Unit
  | [] => .ok ()
  | first :: rest =>
    if seen.contains first.name then fail .invariant ("Duplicate option " ++ quote first.name)
    else if positionals.contains first.name then
      fail .invariant ("Option " ++ quote first.name ++ " has the same name as a positional")
    else checkOptions positionals (first.name :: seen) rest

/-- Checks that the callbacks of a signature mean what they should. -/
def checkSignature (signature : Signature) : Except Fault Unit := do
  checkName signature
  checkPositionals signature [] signature.positionals
  checkOptions (signature.positionals.map (·.name)) [] signature.options

/-! ### The command -/

/-- The text of the command: the program, each positional in angle brackets, and a word for options
if there are any. -/
def commandText (signature : Signature) : String :=
  " ".intercalate
    (programToken :: signature.positionals.map (fun positional => "<" ++ positional.name ++ ">") ++
      (if signature.options.isEmpty then [] else [optionsToken]))

/-- The call that registers the command. -/
def command (signature : Signature) : Except Fault Expr := do
  checkSignature signature
  .ok (callOf "command"
    [textExpr (commandText signature), signature.description, .name builderName,
      .name handlerName])

/-! ### The callbacks -/

/-- A function of one parameter. -/
def functionOf (name parameter : String) (body : List Stmt) : Stmt :=
  .functionDef { name, parameters := { regular := [{ name := parameter }] } } body

/-- The calls that declare the arguments: positionals first, then options. -/
def declarations (signature : Signature) : List Expr :=
  signature.positionals.map (·.call.toExpr) ++ signature.options.map (·.call.toExpr)

/-- The function that declares every argument on a parser. -/
def builder (signature : Signature) : Except Fault Stmt := do
  let declared ← chain (declarations signature) (.name parserName)
  .ok (functionOf builderName parserName [.returnValue (some declared)])

/-- The pattern that takes parsed arguments apart: a name for each positional, and one for the rest
if there are options. -/
def destructuringPattern (signature : Signature) : Pattern :=
  .mapping
    ((textExpr bucketKey, .capture none none) :: (textExpr programKey, .capture none none) ::
      signature.positionals.map fun positional =>
        (textExpr positional.name, .capture none (some positional.name)))
    (if signature.options.isEmpty then none else some optionsName)

/-- The call of the function: its positionals in order, then its options if there are any. -/
def dispatch (signature : Signature) : Stmt :=
  .expression (callOf signature.name
    (signature.positionals.map (fun positional => .name positional.name) ++
      -- The options are handed over together, as what the pattern has not captured.
      (if signature.options.isEmpty then [] else [.name optionsName])))

/-- The complaint about parsed arguments of another shape. -/
def mismatch : Stmt :=
  .raise
    (some (callOf "TypeError"
      [.joined [textExpr mismatchMessage, .formatted (.name argvName) (some 'r') none]]))
    none

/-- The function that takes parsed arguments apart and calls the function. -/
def handler (signature : Signature) : Stmt :=
  functionOf handlerName argvName
    [.matchBlock (.name argvName)
      [{ pattern := destructuringPattern signature, body := [dispatch signature] },
        { pattern := .capture none none, body := [mismatch] }]]

/-- The two functions. -/
def callbacks (signature : Signature) : Except Fault (List Stmt) := do
  .ok [← builder signature, handler signature]

end EntryPoint
