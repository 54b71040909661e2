/-
# The console

Data goes to the standard output, diagnostics to the standard error stream. The
format of data and the use of colour follow from what the user asks for, from the
terminal and from the environment. With colour, a diagnostic is marked up text;
without, it is written as it is.

## Main definitions

* `Console` - the format, and what is shown.
* `Console.ofFlags` - the console that flags and surroundings give.
* `Console.diagnostic` - what a diagnostic writes.
* `Console.dataText`, `Console.codeText` - what data and generated code write.
-/

import EntryPoint.Console.Markup
import EntryPoint.Document.Json.Writer
import EntryPoint.Failure
import EntryPoint.Text.Utf8

namespace EntryPoint

open Document Text

/-- The formats of data. -/
inductive OutputFormat
  | json
  | plain
  | rich
  deriving DecidableEq

namespace OutputFormat

/-- The name of a format. -/
def name : OutputFormat → String
  | .json => "json"
  | .plain => "plain"
  | .rich => "rich"

/-- The format of a name. -/
def ofName? (name : String) : Option OutputFormat :=
  [json, plain, rich].find? (·.name = name)

end OutputFormat

/-- What is known about the surroundings of a console: whether the standard output is a terminal,
and two variables of the environment. -/
structure Surroundings where
  isTerminal : Bool
  noColor : Option String := none
  term : Option String := none

/-- Whether the environment asks for no colour: by setting the variable for that, whatever its
value, or by naming a terminal without abilities. -/
def Surroundings.refusesColor (surroundings : Surroundings) : Bool :=
  surroundings.noColor.isSome || surroundings.term = some "dumb"

/-- The format of data, and what is shown. -/
structure Console where
  format : OutputFormat
  usesColor : Bool
  isQuiet : Bool
  isVerbose : Bool
  deriving DecidableEq

/-- The flags that shape a console. Without a format, the one for terminals is taken where it can
show colour. -/
structure ConsoleFlags where
  format : Option OutputFormat := none
  noColor : Bool := false
  isQuiet : Bool := false
  isVerbose : Bool := false

/-- The kinds of diagnostics. -/
inductive Diagnostic
  | info
  | success
  | warning
  | error
  | suggestion
  | trace
  deriving DecidableEq

namespace Console

/-- The console that flags and surroundings give. -/
def ofFlags (flags : ConsoleFlags) (surroundings : Surroundings) : Console :=
  let usesColor := !(flags.noColor || surroundings.refusesColor)
  { format := flags.format.getD (if surroundings.isTerminal && usesColor then .rich else .plain)
    usesColor
    isQuiet := flags.isQuiet
    isVerbose := flags.isVerbose }

/-! ### Diagnostics -/

/-- Whether a diagnostic is shown. Warnings and errors always are. -/
def shows (console : Console) : Diagnostic → Bool
  | .info | .success | .suggestion => !console.isQuiet
  | .warning | .error => true
  | .trace => console.isVerbose

/-- A message without colour. -/
def plainMessage (diagnostic : Diagnostic) (message : String) : String :=
  match diagnostic with
  | .info | .success => message
  | .warning => "Warning: " ++ message
  | .error => "Error: " ++ message
  | .suggestion => "→ " ++ message
  | .trace => "[debug] " ++ message

/-- A message with colour. -/
def markedMessage (diagnostic : Diagnostic) (message : String) : String :=
  match diagnostic with
  | .info => message
  | .success => "[green]" ++ message ++ "[/green]"
  | .warning => "[yellow]Warning:[/yellow] " ++ message
  | .error => "[bold red]Error:[/bold red] " ++ message
  | .suggestion => "[dim]→ " ++ message ++ "[/dim]"
  | .trace => "[dim][debug] " ++ message ++ "[/dim]"

/-- What a diagnostic writes to the standard error stream. -/
def diagnostic (console : Console) (diagnostic : Diagnostic) (message : String) :
    Except Fault String :=
  if !console.shows diagnostic then .ok ""
  else if !console.usesColor then .ok (plainMessage diagnostic message ++ "\n")
  else
    -- The message stands between the tags as it is, so that brackets in it are read as tags too.
    match Console.visibleText (markedMessage diagnostic message) with
    | .ok text => .ok (text ++ "\n")
    | .error .closing => failUnforeseen .markup
    | .error .color => failUnforeseen .value

/-! ### Data -/

/-- Values over several lines, with characters beyond ASCII as they are. -/
def dataStyle : JsonStyle := { indentation := some 2, escapes := false }

/-- What data writes to the standard output: one value over several lines, or a mapping with a line
for each of its keys. -/
def dataText (console : Console) (value : Value) : String :=
  match console.format, value with
  | .plain, .mapping pairs =>
    String.join (pairs.map fun (key, value) => key.plainText ++ "\t" ++ writeJson {} value ++ "\n")
  | .plain, value => writeJson {} value ++ "\n"
  -- A terminal gets the same JSON, in colours that leave no trace in the text.
  | _, value => writeJson dataStyle value ++ "\n"

/-- The width of tabs in code. -/
def codeTab : Nat := 4

/-- A text without blanks at the ends of its lines. -/
def trimLineEnds (text : String) : String :=
  "\n".intercalate ((text.splitOn "\n").map fun line =>
    String.ofList (line.toList.reverse.dropWhile isBlank).reverse)

/-- The mark that may open a text. -/
def openingMark : Char := Char.ofNat 0xfeff

/-- Code as a terminal shows it: without tabs, without a mark that opens it, and without blanks at
the ends of lines. -/
def shownCode (source : String) : String :=
  let text := expandTabs (fun _ => 1) codeTab (unifyLineEnds source.toList)
  let text := if text.head? = some openingMark then text.drop 1 else text
  trimLineEnds (String.ofList (text.filter (!isSilent ·))) ++ "\n"

/-- What generated code writes to the standard output. -/
def codeText (console : Console) (source : String) : String :=
  if console.format = .rich then shownCode source else source

end Console

end EntryPoint
