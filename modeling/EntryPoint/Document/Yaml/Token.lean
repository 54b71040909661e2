/-
# Tokens of YAML

The units of a document: scalars with what qualifies them, the indicators of
collections in brackets, and the bounds of collections that indentation alone
marks.
-/

import EntryPoint.Document.Yaml.Flaw

namespace EntryPoint.Document.Yaml

/-- An instruction before a document. -/
inductive Directive
  | version (major : Nat)
  | handle (name : String) (stem : String)
  | unknown
  deriving DecidableEq

/-- A unit of a document. The last token is the end of the text, or the flaw behind which no token
is known. -/
inductive Token
  | directive (directive : Directive)
  | documentStart
  | documentEnd
  | textEnd
  | flaw (flaw : Flaw)
  | blockSequenceStart
  | blockMappingStart
  | blockEnd
  | flowSequenceStart
  | flowSequenceEnd
  | flowMappingStart
  | flowMappingEnd
  | flowEntry
  | blockEntry
  | key
  | value
  | alias (name : String)
  | anchor (name : String)
  | tag (handle : Option String) (suffix : String)
  | scalar (text : String) (isPlain : Bool)
  deriving DecidableEq

end EntryPoint.Document.Yaml
