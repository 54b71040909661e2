/-
# Paths

A path is a root, if it has one, and the names below it. Blank names and names
that stay in place vanish when a path is read; names that go up stay until the
path is resolved against a directory.

## Main definitions

* `Path` - the paths; `Path.ofString` and `Path.text` read and write them.
* `Path.join`, `Path.parent`, `Path.withoutSuffix` - paths from paths.
* `Path.resolve` - the names below the root that a path leads to.
* `relativeNames` - the way from one directory to another place.
-/

import EntryPoint.Failure
import EntryPoint.Text.Split

namespace EntryPoint

/-- The root of a path: none, the usual one, or the one of exactly two slashes. -/
inductive Root
  | none
  | single
  | double
  deriving DecidableEq

/-- The text of a root. -/
def Root.text : Root → String
  | .none => ""
  | .single => "/"
  | .double => "//"

/-- A path: its root and the names below it. -/
structure Path where
  root : Root
  names : List String
  deriving DecidableEq

namespace Path

/-- Whether a part of a path names something. -/
def isName (part : List Char) : Bool :=
  part ≠ [] && part ≠ ['.']

/-- The root that a text opens with: three slashes or more count as one. -/
def rootOf (text : List Char) : Root :=
  match (text.takeWhile (· = '/')).length with
  | 0 => .none
  | 2 => .double
  | _ => .single

/-- The path that a text spells. -/
def ofString (text : String) : Path where
  root := rootOf text.toList
  names := ((Text.partsOf '/' text.toList).filter isName).map String.ofList

/-- The text of a path; the empty one stays in place. -/
def text (path : Path) : String :=
  if path.root = .none ∧ path.names.isEmpty then "."
  else path.root.text ++ "/".intercalate path.names

/-- Whether a path starts at a root. -/
def isAbsolute (path : Path) : Bool :=
  path.root ≠ .none

/-- The second path as seen from the first. -/
def join (base path : Path) : Path :=
  if path.isAbsolute then path else ⟨base.root, base.names ++ path.names⟩

/-- A path with one more name. -/
def child (base : Path) (name : String) : Path :=
  base.join (ofString name)

/-- The path without its last name. -/
def parent (path : Path) : Path :=
  ⟨path.root, path.names.dropLast⟩

/-- The last name, or the empty text. -/
def name (path : Path) : String :=
  path.names.getLastD ""

/-- A name around its last point: the stem, and the suffix from the point on. A point at either end
opens no suffix. -/
def splitSuffix (name : String) : String × String :=
  let ending := (name.toList.reverse.takeWhile (· ≠ '.')).reverse
  -- Without a point the ending is the whole name, and nothing is left in front of it.
  let front := name.toList.take (name.length - ending.length - 1)
  if ending.isEmpty ∨ front.isEmpty ∨ ending.length = name.length then (name, "")
  else (String.ofList front, String.ofList ('.' :: ending))

/-- The suffix of the last name. -/
def suffix (path : Path) : String :=
  (splitSuffix path.name).2

/-! ### Resolving -/

/-- Follows one more name; the list holds the names so far, last first. Nothing lies above the
root. -/
def follow (above : List String) (name : String) : List String :=
  if name = ".." then above.drop 1 else if name = "." then above else name :: above

/-- The names below the root that a list of names leads to. -/
def normalize (names : List String) : List String :=
  (names.foldl follow []).reverse

/-- The names below the root that a path leads to, from a directory given by such names. -/
def resolve (directory : List String) (path : Path) : List String :=
  normalize (if path.isAbsolute then path.names else directory ++ path.names)

/-- The path to a place given by the names below the root. -/
def ofNames (names : List String) : Path :=
  ⟨.single, names⟩

end Path

/-- The way from a directory to a place, both given by the names below the root: up to what they
share, then down. -/
def relativeNames : List String → List String → List String
  | first :: start, name :: target =>
    if first = name then relativeNames start target
    else List.replicate (start.length + 1) ".." ++ name :: target
  | start, target => List.replicate start.length ".." ++ target

end EntryPoint
