/-
# File trees

A file tree says what stands at each place, where a place is given by the names
below the root. A path leads to a place name by name, and each name is sought in
a directory that exists; only the last one may name nothing yet.

## Main definitions

* `FileTree` - what stands where.
* `FileTree.locate` - the place that a path leads to.
* `FileTree.read`, `FileTree.write`, `FileTree.makeDirectory`, `FileTree.move`,
  `FileTree.remove` - what can be done at a place.
* `FileTree.freshName` - a name that is free in a directory.
-/

import EntryPoint.Association
import EntryPoint.Path

namespace EntryPoint

/-- What stands at a place: a directory, or a file with its bytes. -/
inductive Item
  | directory
  | file (bytes : List UInt8)
  deriving DecidableEq

/-- The places below the root where something stands. -/
structure FileTree where
  items : List (List String × Item) := []
  deriving DecidableEq

namespace FileTree

/-- What stands at a place. The root is a directory. -/
def item? (tree : FileTree) (place : List String) : Option Item :=
  if place.isEmpty then some .directory else tree.items.lookup place

/-- Puts an item at a place. -/
def put (tree : FileTree) (place : List String) (item : Item) : FileTree :=
  ⟨Association.insert tree.items place item⟩

/-- Clears a place. -/
def clear (tree : FileTree) (place : List String) : FileTree :=
  ⟨tree.items.filter (·.1 ≠ place)⟩

/-! ### Ways to places -/

/-- Follows names from a place. -/
def walk (tree : FileTree) : List String → List String → Except UnforeseenKind (List String)
  | place, [] => .ok place
  | place, name :: names =>
    match tree.item? place with
    -- Every place on the way must be a directory, also one that the next name leaves again.
    | some .directory => tree.walk (if name = ".." then place.dropLast else place ++ [name]) names
    | some (.file _) => .error .notDirectory
    | none => .error .fileMissing

/-- The place that a path leads to from a directory. No name holds a null character. -/
def locate (tree : FileTree) (directory : List String) (path : Path) :
    Except UnforeseenKind (List String) :=
  if path.names.any (·.toList.contains '\x00') then .error .value
  else tree.walk (if path.isAbsolute then [] else directory) path.names

/-! ### Deeds at places -/

/-- The bytes of the file at a place. -/
def read (tree : FileTree) (place : List String) : Except UnforeseenKind (List UInt8) :=
  match tree.item? place with
  | some (.file bytes) => .ok bytes
  | some .directory => .error .isDirectory
  | none => .error .fileMissing

/-- Writes a file at a place, over the one that stands there. -/
def write (tree : FileTree) (bytes : List UInt8) (place : List String) :
    Except UnforeseenKind FileTree :=
  match tree.item? place with
  | some .directory => .error .isDirectory
  | _ => .ok (tree.put place (.file bytes))

/-- Makes a directory at a place where nothing stands. -/
def makeDirectory (tree : FileTree) (place : List String) : Except UnforeseenKind FileTree :=
  match tree.item? place with
  | some _ => .error .fileExists
  | none => .ok (tree.put place .directory)

/-- Moves a file to another place, over the file that stands there. -/
def move (tree : FileTree) (source target : List String) : Except UnforeseenKind FileTree := do
  let bytes ← tree.read source
  match tree.item? target with
  | some .directory => .error .isDirectory
  | _ => .ok ((tree.clear source).put target (.file bytes))

/-- Removes the file at a place. -/
def remove (tree : FileTree) (place : List String) : Except UnforeseenKind FileTree := do
  let _ ← tree.read place
  return tree.clear place

/-! ### Free names -/

/-- The names between an opening and an ending that tell places apart by number. -/
def numberedName (opening ending : String) (n : Nat) : String :=
  opening ++ Text.decimal n ++ ending

/-- A name with an opening and an ending that is free in a directory. Of one number more than there
are items, one is free. -/
def freshName (tree : FileTree) (directory : List String) (opening ending : String) : String :=
  let isFree (n : Nat) := (tree.item? (directory ++ [numberedName opening ending n])).isNone
  numberedName opening ending
    (((List.range (tree.items.length + 1)).find? isFree).getD (tree.items.length + 1))

end FileTree

end EntryPoint
