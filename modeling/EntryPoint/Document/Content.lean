/-
# Documents in either format

A document is a mapping, written in JSON or in YAML. Where the format is not
known, JSON is tried first, and the report on a text that is neither names what
is wrong with it in both.

## Main definitions

* `Format`, `Format.ofHint` - what is known about the format.
* `readDocument` - the pairs of a document.
-/

import EntryPoint.Document.Json.Reader
import EntryPoint.Document.Yaml.Reader

namespace EntryPoint.Document

/-- The formats of documents. -/
inductive Format
  | json
  | yaml
  deriving DecidableEq

/-- The format that a hint names. -/
def Format.ofHint (hint : String) : Option Format :=
  if hint = "json" then some .json
  else if hint = "yaml" then some .yaml
  else none

/-- The pairs of a mapping; any other value is refused by the name of its kind. -/
def requireMapping (value : Value) (nullName : String) : Except Fault (List (Value × Value)) :=
  match value with
  | .mapping pairs => .ok pairs
  | .null => fail .signature ("Signature must be a JSON/YAML object (got " ++ nullName ++ ")")
  | value =>
    fail .signature ("Signature must be a JSON/YAML object (got " ++ value.kindName ++ ")")

/-- The pairs of a document in YAML, given what was wrong with it as JSON if that was tried. -/
def readYamlDocument (content : String) (jsonComplaint : Option String) :
    Except Fault (List (Value × Value)) :=
  match Yaml.readYaml content with
  | .ok value => requireMapping value "empty document"
  | .error (.unforeseen kind) => failUnforeseen kind
  | .error .malformed =>
    let complaint := (jsonComplaint.map ("\n  JSON error: " ++ ·)).getD ""
    fail .signature
      ("Failed to parse signature as JSON or YAML" ++ complaint ++ "\n  YAML error: <yaml>")

/-- The pairs of a document. -/
def readDocument (content : String) (format : Option Format) :
    Except Fault (List (Value × Value)) :=
  if format = some .yaml then readYamlDocument content none
  else
    match readJson content with
    | .ok value => requireMapping value Value.null.kindName
    | .error (.longInteger _) => failUnforeseen .value
    | .error mistake =>
      let complaint := mistake.text content.toList
      if format = some .json then fail .signature ("Invalid JSON: " ++ complaint)
      else readYamlDocument content (some complaint)

end EntryPoint.Document
