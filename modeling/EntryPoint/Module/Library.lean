/-
# The argument-parsing library

The library is imported by name. Where the generated code runs without the usual
search for modules, the library is found when the code is generated and loaded
from its file.

## Main definitions

* `ModuleSpace` - the modules that can be found.
* `ModuleSpace.find` - the file of a module, or why there is none.
* `libraryImports` - the statements that make the library available.
-/

import EntryPoint.Signature

namespace EntryPoint

open Syntax Text

/-- The modules that can be found: files given by names below a directory, with the path of that
directory. -/
structure ModuleSpace where
  base : String
  files : List (List String)

/-- What a module name leads to: a built-in module, a module in a file, a package with its names
and perhaps a file, or a module that runs without having been found. -/
inductive ModulePlace
  | builtIn
  | running
  | file (names : List String)
  | package (names : List String) (file : Option (List String))

namespace ModuleSpace

/-- Where a module stands inside a package, given by names: in a directory of its own, in a file, or
in a directory without file. -/
def inside (space : ModuleSpace) (package : List String) (name : List Char) : Option ModulePlace :=
  if name.contains '/' then none
  else
    let name := String.ofList name
    let directory := package ++ [name]
    let own := directory ++ ["__init__.py"]
    let file := package ++ [name ++ ".py"]
    -- A package with a file goes before a module of its name, and one without comes last.
    if space.files.contains own then some (.package directory (some own))
    else if space.files.contains file then some (.file file)
    else if space.files.any directory.isPrefixOf then some (.package directory none)
    else none

/-- The module of a name by itself. -/
def top (space : ModuleSpace) (name : List Char) : Option ModulePlace :=
  if name = "sys".toList ∨ name = "builtins".toList then some .builtIn
  else if name = "__main__".toList then some .running
  else if name.isEmpty then none
  else space.inside [] name

/-- Loads the module given by its name and the names of the packages around it, innermost first;
says why it cannot be loaded. -/
def load (space : ModuleSpace) : List (List Char) → Except String ModulePlace
  | [] => .error "No module named ''"
  | [name] =>
    match space.top name with
    | some place => .ok place
    | none => .error ("No module named " ++ quote (String.ofList name))
  | name :: outer => do
    let full := quote (dotted (name :: outer))
    match ← space.load outer with
    | .package names _ =>
      match space.inside names name with
      | some place => .ok place
      | none => .error ("No module named " ++ full)
    | _ =>
      .error ("No module named " ++ full ++ "; " ++ quote (dotted outer) ++ " is not a package")
where
  /-- Names joined by points, the outermost first. -/
  dotted (names : List (List Char)) : String :=
    ".".intercalate (names.reverse.map String.ofList)

/-- Where a module stands, if it can be found; says why it cannot even be looked for. -/
def locate (space : ModuleSpace) (name : String) : Except String (Option ModulePlace) :=
  match (partsOf '.' name.toList).reverse with
  -- Without a point the module is looked for and not loaded, so that nothing can go wrong.
  | [] | [_] => .ok (space.top name.toList)
  | last :: outer => do
    if name.toList.head? = some '.' then
      .error ("no package specified for " ++ quote name ++
        " (required for relative module names)")
    match ← space.load outer with
    | .package names _ => .ok (space.inside names last)
    | _ =>
      .error ("__path__ attribute not found on " ++ quote (load.dotted outer) ++
        " while trying to find " ++ quote name)

/-- The file of a module. -/
def find (space : ModuleSpace) (name : String) : Except Fault String := do
  let shown := "Cannot resolve module '" ++ name ++ "'"
  match space.locate name with
  | .error reason => fail .resolution (shown ++ ": " ++ reason)
  | .ok (some .running) => fail .resolution (shown ++ ": " ++ name ++ ".__spec__ is None")
  | .ok (some (.file names)) | .ok (some (.package _ (some names))) =>
    .ok (space.base ++ "/" ++ "/".intercalate names)
  | .ok _ => fail .resolution (shown ++ " to a file on disk")

end ModuleSpace

/-! ### Imports -/

/-- The import of a module, under another name if one is given that differs. -/
def importModule (name asName : String) : Stmt :=
  .importModules
    [{ name, asName := if asName.isEmpty ∨ asName = name then none else some asName }]

/-- The assignment of a value to a name. -/
def assignName (name : String) (value : Expr) : Stmt :=
  .assign [.name name] value

/-- An expression followed by attributes. -/
def attributes (base : Expr) (names : List String) : Expr :=
  names.foldl Expr.attribute base

/-- A call of a function that deals with the import of modules. -/
def importCall (function : String) (args : List Expr) : Expr :=
  .call (attributes (.name "importlib") ["util", function]) args []

/-- The statements that load a module from a file and bind it to a name. -/
def loadFromFile (name asName file : String) : List Stmt :=
  let spec := "_" ++ asName ++ "_spec"
  -- The module is known to the system before it runs, so that it can be imported by what it loads.
  [importModule "importlib.util" "",
    assignName spec (importCall "spec_from_file_location" [textExpr name, textExpr file]),
    assignName asName (importCall "module_from_spec" [.name spec]),
    .assign [.subscript (attributes (.name "sys") ["modules"]) (textExpr name)] (.name asName),
    .expression (.call (attributes (.name spec) ["loader", "exec_module"]) [.name asName] [])]

/-- The statements that make the library available under a name. -/
def libraryImports (space : ModuleSpace) (name asName : String) (context : Context) :
    Except Fault (List Stmt) :=
  if context.inlines then return loadFromFile name asName (← space.find name)
  else .ok [importModule name asName]

end EntryPoint
