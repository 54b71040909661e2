/-
# Readers

A reader takes what it reads from the front of a list of tokens, or fails and
takes nothing.

## Main definitions

* `Reader` - the readers.
* `Reader.iterate`, `Reader.repeatedly` - steps for as long as they go.
* `Reader.commaItems` - items between commas.
-/

import EntryPoint.Syntax.Token

namespace EntryPoint.Syntax

/-- Takes a value from the front of a list of tokens. -/
abbrev Reader (α : Type) := StateT (List Token) Option α

namespace Reader

variable {α : Type}

/-- The next token, which stays. -/
def peek? : Reader (Option Token) := fun tokens => some (tokens.head?, tokens)

/-- The next token. -/
def next : Reader Token := fun tokens =>
  match tokens with
  | [] => none
  | token :: rest => some (token, rest)

/-- Takes the given token if it is next, and says whether it was. -/
def accept (token : Token) : Reader Bool := fun tokens =>
  match tokens with
  | [] => some (false, [])
  | first :: rest => if first = token then some (true, rest) else some (false, first :: rest)

/-- Takes the given token. -/
def expect (token : Token) : Reader Unit := fun tokens =>
  match tokens with
  | [] => none
  | first :: rest => if first = token then some ((), rest) else none

/-- Takes a symbol if it is next. -/
def symbol? (text : String) : Reader Bool := accept (.symbol text)

/-- Takes a symbol. -/
def symbol (text : String) : Reader Unit := expect (.symbol text)

/-- Takes a reserved word if it is next. -/
def word? (text : String) : Reader Bool := accept (.keyword text)

/-- Takes a reserved word. -/
def word (text : String) : Reader Unit := expect (.keyword text)

/-- Takes a name. -/
def name : Reader String := fun tokens =>
  match tokens with
  | .name text _ :: rest => some (text, rest)
  | _ => none

/-- Whether the next token is one of the given symbols. -/
def nextIsSymbol (texts : List String) : Reader Bool := fun tokens =>
  match tokens with
  | .symbol text :: rest => some (texts.contains text, .symbol text :: rest)
  | tokens => some (false, tokens)

/-- Whether the next tokens are a name and the given symbol. -/
def nextIsNameBefore (symbol : String) : Reader Bool := fun tokens =>
  match tokens with
  | .name text isNormal :: .symbol other :: rest =>
    some (other = symbol, .name text isNormal :: .symbol other :: rest)
  | tokens => some (false, tokens)

/-- What a reader reads, or nothing where it fails. -/
def optionally (reader : Reader α) : Reader (Option α) :=
  (some <$> reader) <|> pure none

/-- A value where a condition holds. -/
def require (condition : Bool) : Reader Unit :=
  if condition then pure () else failure

/-- A value that may be missing. -/
def ofOption (value : Option α) : Reader α := fun tokens =>
  value.map fun value => (value, tokens)

/-- At most so many steps. -/
def iterateUpTo (step : α → Reader (Option α)) : Nat → α → Reader α
  | 0, value => pure value
  | fuel + 1, value => do
    match ← step value with
    | some value => iterateUpTo step fuel value
    | none => return value

/-- Steps from a value for as long as they go. Every step takes a token at least. -/
def iterate (step : α → Reader (Option α)) (value : α) : Reader α := fun tokens =>
  iterateUpTo step tokens.length value tokens

/-- The values that a reader yields until it yields none. -/
def repeatedly (step : Reader (Option α)) : Reader (List α) := do
  let values ← iterate (fun values => return (← step).map (· :: values)) []
  return values.reverse

/-- At most so many items between commas, and whether a comma closes them. -/
def commaItemsUpTo (item : Reader α) : Nat → Reader (List α × Bool)
  | 0 => failure
  | fuel + 1 => do
    let first ← item
    if ← symbol? "," then
      match ← optionally (commaItemsUpTo item fuel) with
      | some (rest, closed) => return (first :: rest, closed)
      | none => return ([first], true)
    else return ([first], false)

/-- Items between commas, at least one, and whether a comma closes them. -/
def commaItems (item : Reader α) : Reader (List α × Bool) := fun tokens =>
  commaItemsUpTo item tokens.length tokens

/-- Items between commas without one at the end, at least one. -/
def strictItems (item : Reader α) : Reader (List α) := do
  let first ← item
  let rest ← repeatedly do
    if ← symbol? "," then return some (← item) else return none
  return first :: rest

/-- Runs a reader on tokens that it must take all. -/
def runAll (reader : Reader α) (tokens : List Token) : Option α :=
  match reader tokens with
  | some (value, []) => some value
  | _ => none

end Reader

end EntryPoint.Syntax
