/-
# Sources

A signature document comes from the standard input, from the network or from a
file, and the module of the function from the standard input or from a file. What
is known about the format of a document follows from the type that the network
states or from the suffix of the file.

## Main definitions

* `SignatureSource` - where a document comes from.
* `loadSignature` - the pairs of a document.
* `SourceModule`, `loadModule` - the module of the function.
-/

import EntryPoint.Document.Content
import EntryPoint.Host
import EntryPoint.Signature.Extract

namespace EntryPoint

open Document Syntax Text

variable {m : Type → Type} [Monad m] [MonadExceptOf Fault m] [Host m]

/-- The name that stands for the standard input. -/
def standardInput : String := "-"

/-- Where a document comes from. -/
inductive SignatureSource
  | input
  | address (url : String)
  | file (name : String)
  deriving DecidableEq

/-- Where a name says that a document comes from. -/
def SignatureSource.ofName (name : String) : SignatureSource :=
  if name = standardInput then .input
  else if name.startsWith "http://" || name.startsWith "https://" then .address name
  else .file name

/-! ### The standard input -/

/-- The text on the standard input, which must not be blank. -/
def readStandardInput : m String := do
  match ← Host.readInput with
  | .error reason => stop .signature ("Failed to read from stdin: " ++ reason)
  | .ok content =>
    if isAllBlank content.toList then stop .signature "No input received from stdin"
    else return content

/-! ### Documents -/

/-- Whether a text occurs in another one. -/
def occursIn (part : List Char) : List Char → Bool
  | [] => part.isEmpty
  | c :: rest => part.isPrefixOf (c :: rest) || occursIn part rest

/-- The format that a type of content tells. -/
def formatOfType (contentType : String) : Option Format :=
  let mentions (word : String) := occursIn word.toList contentType.toList
  -- A type that mentions both is taken for JSON.
  if mentions "json" then some .json
  else if mentions "yaml" || mentions "yml" then some .yaml
  else none

/-- The format that the suffix of a file tells. -/
def formatOfSuffix (suffix : String) : Option Format :=
  let suffix := lowerAscii suffix
  if suffix = ".json" then some .json
  else if suffix = ".yaml" || suffix = ".yml" then some .yaml
  else none

/-- The document in an answer from the network. -/
def documentOfReply (address : String) : Except String Reply → Except Fault Pairs
  | .error reason =>
    fail .signature ("Failed to fetch signature from " ++ address ++ ": " ++ reason)
  | .ok reply =>
    if 200 ≤ reply.status ∧ reply.status < 300 then
      readDocument reply.text (formatOfType (reply.contentType.getD ""))
    else
      fail .signature
        ("HTTP " ++ decimal reply.status ++ " fetching signature from " ++ address)

/-- The text of a file with bytes that must spell one. -/
def readTextOf (path : Path) : m String := do
  match ← readTextFile path with
  | .ok content => return content
  | .error _ => orStop (failUnforeseen .decoding)

/-- The document in a file. -/
def loadDocument (name : String) : m Pairs := do
  let path := Path.ofString name
  if ← isFile path then
    let content ← readTextOf path
    if isAllBlank content.toList then stop .signature ("Signature file is empty: " ++ name)
    else orStop (readDocument content (formatOfSuffix path.suffix))
  else stop .signature ("Signature file not found: " ++ name)

/-- The pairs of the document that a name leads to. -/
def loadSignature (name : String) : m Pairs :=
  match SignatureSource.ofName name with
  | .input => do orStop (readDocument (← readStandardInput) none)
  | .address url => do orStop (documentOfReply url (← Host.fetch url))
  | .file name => loadDocument name

/-! ### Modules -/

/-- A module: the path that it is known by, and its statements. -/
structure SourceModule where
  path : Path
  body : List Stmt

/-- The statements in the text of a module known by a path. -/
def parseModule (path : Path) (content : String) : Except Fault SourceModule :=
  match readModule content with
  | .ok body => .ok ⟨path, body⟩
  | .error .nullCharacter => failUnforeseen .value
  | .error .malformed =>
    fail .signature ("Entry module " ++ path.text ++ " is not valid Python: <syntax>")

/-- The module that a name leads to, known by that name unless another path is given. -/
def loadModule (name : String) (shown : Option Path) : m SourceModule := do
  if name = standardInput then
    let content ← readStandardInput
    let place := (Path.ofNames (← Host.directory)).child "<stdin>"
    orStop (parseModule (shown.getD place) content)
  else
    let path := Path.ofString name
    if ← isFile path then orStop (parseModule (shown.getD path) (← readTextOf path))
    else stop .signature ("Entry module not found: " ++ name)

end EntryPoint
