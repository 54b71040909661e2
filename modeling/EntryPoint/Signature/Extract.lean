/-
# Signatures from documents

A document names a function and lists its positionals, options and references.
Short forms are allowed: a text for an entry of that name, no call for the
default one, one name for a list of names.

## Main definitions

* `parseCall` - the call that a text spells.
* `entries` - the entries of a list in their long form.
* `extract` - the signature of a document.
-/

import EntryPoint.Association
import EntryPoint.Signature
import EntryPoint.Syntax.Reader.Statement

namespace EntryPoint

open Document Syntax Text

/-- The pairs of a mapping. -/
abbrev Pairs := List (Value × Value)

/-- The call of a bare name that a text spells. -/
def parseCall (source : String) : Except Fault Call :=
  match readExpression (String.ofList (trimBlanks source.toList)) with
  | .error .nullCharacter => failUnforeseen .value
  | .error .malformed =>
    fail .signature ("Invalid call expression " ++ quote source ++ ": <syntax>")
  | .ok (.call (.name name) args keywords) => .ok (.ofName name args keywords)
  | .ok _ => fail .signature ("Expected a call with a bare name callee, got " ++ quote source)

/-! ### Entries -/

/-- An entry in its long form: its name and its other fields. -/
structure Entry where
  name : String
  fields : Pairs

/-- The long form of an entry. -/
def entryOf? : Value → Option Entry
  | .text name => some ⟨name, []⟩
  | .mapping pairs =>
    match Value.lookup? "name" pairs with
    | some (.text name) => some ⟨name, pairs⟩
    | _ => none
  | _ => none

/-- The entries under a key; a value that does not count as present lists none. -/
def entries (document : Pairs) (key : String) : Except Fault (List Entry) :=
  let value := Value.lookupD key document
  if !value.isTruthy then .ok []
  else
    match value with
    | .list values =>
      match values.mapM entryOf? with
      | some entries => .ok entries
      | none => fail .signature ("Every entry of '" ++ key ++ "' needs a 'name' string")
    | _ => fail .signature ("'" ++ key ++ "' must be a list")

/-- The text of a value, if it has one. -/
def writtenText (value : Value) : Except Fault String :=
  if value.hasText then .ok value.plainText else failUnforeseen .value

/-- The call of an entry, or the default one. -/
def Entry.call (callee : String) (entry : Entry) : Except Fault Call :=
  match Value.lookupD "call" entry.fields with
  | .null => .ok (defaultCall callee entry.name)
  | source => do parseCall (← writtenText source)

/-- Whether an entry is required; it is unless it says otherwise. -/
def Entry.required (entry : Entry) : Bool :=
  ((Value.lookup? "required" entry.fields).map Value.isTruthy).getD true

/-- The positional of an entry. -/
def Entry.positional (entry : Entry) : Except Fault Positional :=
  return { name := entry.name, call := ← entry.call "positional", required := entry.required }

/-- The option of an entry. -/
def Entry.option (entry : Entry) : Except Fault Flag :=
  return { name := entry.name, call := ← entry.call "option" }

/-! ### References -/

/-- The text that a value is. -/
def textOf? : Value → Option String
  | .text value => some value
  | _ => none

/-- The names that a file exports in one way. -/
def exportedNames (file : String) : Value → Except Fault (List String)
  | .null => .ok []
  | .text name => .ok [name]
  | .list values =>
    match values.mapM textOf? with
    | some names => .ok names
    | none => fail .signature ("Exports of '" ++ file ++ "' must be names")
  | _ => fail .signature ("Exports of '" ++ file ++ "' must be names")

/-- The exports of a file. -/
def exportsOf (file : String) (value : Value) : Except Fault Exports :=
  if !value.isTruthy then .ok {}
  else
    match value with
    | .mapping pairs => do
      let default ← exportedNames file (Value.lookupD "default" pairs)
      let named ← exportedNames file (Value.lookupD "named" pairs)
      .ok { default, named }
    | _ => fail .signature ("Exports of '" ++ file ++ "' must be a mapping")

/-- The path of a file as seen from a directory, if there is one. -/
def referencePath (directory : Option Path) (file : String) : Path :=
  match directory with
  | some directory => directory.join (.ofString file)
  | none => .ofString file

/-- Adds the reference of a file to those before it. A file must be given by text. -/
def addReference (directory : Option Path) (references : List (Path × Exports))
    (pair : Value × Value) : Except Fault (List (Path × Exports)) :=
  match pair with
  | (.text file, value) => do
    let exports ← exportsOf file value
    .ok (Association.insert references (referencePath directory file) exports)
  | _ => failUnforeseen .type

/-- The references of a document. -/
def extractReferences (directory : Option Path) (value : Value) :
    Except Fault (List (Path × Exports)) :=
  if !value.isTruthy then .ok []
  else
    match value with
    | .mapping pairs => pairs.foldlM (addReference directory) []
    | _ => fail .signature "'ref' must map source files to their exports"

/-! ### Signatures -/

/-- The name of the function that a document describes. -/
def extractName (document : Pairs) : Except Fault String :=
  match Value.lookupD "name" document with
  | .text name =>
    if name.isEmpty then fail .signature "Signature is missing a 'name' string" else .ok name
  | _ => fail .signature "Signature is missing a 'name' string"

/-- The description in a document; a value that does not count as present is empty. -/
def extractDescription (document : Pairs) : Except Fault Expr :=
  let value := Value.lookupD "description" document
  if value.isTruthy then textExpr <$> writtenText value else .ok (textExpr "")

/-- The signature of a document, with references as seen from a directory, if there is one. -/
def extract (document : Pairs) (directory : Option Path) : Except Fault Signature := do
  let name ← extractName document
  -- The fields are read in this order, so that the first one that does not fit is reported.
  let positionals ← (← entries document "positionals").mapM Entry.positional
  let options ← (← entries document "options").mapM Entry.option
  let description ← extractDescription document
  let references ← extractReferences directory (Value.lookupD "ref" document)
  .ok { name, description, positionals, options, references }

end EntryPoint
