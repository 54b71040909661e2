/-
# References to other files

The files that export what an entry point needs are imported relative to the file
that the entry point is written to.

## Main definitions

* `modulePath` - the place of the module of a file.
* `relativeModule` - the module of a file as seen from another file.
* `referenceImports` - the imports of a signature.
-/

import EntryPoint.Signature

namespace EntryPoint

open Syntax Text

/-- The name of the file that stands for its directory. -/
def packageFile : String := "__init__.py"

/-- The place of the module of a file, by names below the root: its directory if it stands for that,
or else the file without its suffix. The root itself has no suffix to lose. -/
def modulePath (directory : List String) (source : Path) : Except Fault (List String) :=
  let names := source.resolve directory
  match names.getLast? with
  | none => failUnforeseen .value
  | some name =>
    if name = packageFile then .ok names.dropLast
    else .ok (Path.normalize (names.dropLast ++ [(Path.splitSuffix name).1]))

/-- The names that follow the steps upwards in front of a way. -/
def downward (way : List String) : List String :=
  way.dropWhile (· = "..")

/-- The module of a file as seen from another file, and how many points stand in front of it. -/
def relativeModule (directory : List String) (output source : Path) :
    Except Fault (Option String × Nat) := do
  let target ← modulePath directory source
  let way := relativeNames (output.parent.resolve directory) target
  let segments := downward way
  match segments.find? (!isIdentifier ·) with
  | some segment =>
    fail .resolution ("Cannot import " ++ source.text ++ ": " ++ quote segment ++
      " is not a valid module name")
  | none =>
    .ok (if segments.isEmpty then none else some (".".intercalate segments),
      -- One point stands for the directory of the output, and each step upwards adds one.
      way.length - segments.length + 1)

/-- The names that are imported from a file: its first default export, then its named exports, each
once. -/
def importedExports (exports : Exports) : List String :=
  exports.named.foldl (fun names name => if names.contains name then names else names ++ [name])
    (exports.default.take 1)

/-- The import of what a file exports; a file that exports nothing has none. -/
def referenceImport (directory : List String) (output : Path) (reference : Path × Exports) :
    Except Fault (Option Stmt) :=
  match importedExports reference.2 with
  | [] => .ok none
  | names => do
    let (source, level) ← relativeModule directory output reference.1
    .ok (some (.importFrom source (names.map fun name => { name }) level))

/-- The imports of a signature, one for each file that exports something. -/
def referenceImports (directory : List String) (output : Path) (signature : Signature) :
    Except Fault (List Stmt) := do
  .ok ((← signature.references.mapM (referenceImport directory output)).filterMap id)

end EntryPoint
