/-
# Places in file trees

What is put at a place stands there, and nothing changes elsewhere. The way to a
place goes through directories alone, so it stays the same as long as those do.

## Main definitions

* `IsFileName` - the names of files.

## Main results

* `FileTree.item?_put`, `FileTree.item?_clear` - what stands where after a deed.
* `FileTree.eq_destination_of_locate`, `IsFileName.locate_child` - the place of a path, and of a
  name in a directory.
* `FileTree.locate_of_directories` - ways stay while directories do.
* `FileTree.item?_freshName` - a free name is free.
-/

import EntryPoint.FileTree
import EntryPoint.Proofs.Association
import EntryPoint.Proofs.Outcome
import EntryPoint.Proofs.Path
import EntryPoint.Proofs.Text.Digits
import Mathlib.Data.List.Nodup
import Mathlib.Data.List.Perm.Subperm

namespace EntryPoint

namespace FileTree

variable {tree after : FileTree} {place other directory : List String} {item : Item}

/-! ### What stands where -/

theorem item?_put (proper : place ≠ []) :
    (tree.put place item).item? other = if other = place then some item else tree.item? other := by
  unfold item? put
  -- The root is no item of the tree, and nothing is put or cleared there.
  rcases eq_or_ne other [] with rfl | below
  · simp [proper.symm]
  · simp [below, Association.lookup_insert]

theorem item?_clear (proper : place ≠ []) :
    (tree.clear place).item? other = if other = place then none else tree.item? other := by
  unfold item? clear
  rcases eq_or_ne other [] with rfl | below
  · simp [proper.symm]
  · simp only [List.isEmpty_iff, below, if_false]
    exact Association.lookup_filter_ne

/-! ### Ways -/

theorem walk_append (names : List String) (name : String) :
    tree.walk place (names ++ [name]) =
      tree.walk place names >>= fun place => tree.walk place [name] := by
  induction names generalizing place with
  | nil => rfl
  | cons first names ih =>
    rw [List.cons_append, walk, walk]
    cases tree.item? place with
    | none => rfl
    | some item =>
      cases item with
      | file bytes => rfl
      | directory => exact ih

/-- A way stays while the directories do. -/
theorem walk_of_directories
    (kept : ∀ place, tree.item? place = some .directory → after.item? place = some .directory)
    {names : List String} (leads : tree.walk place names = .ok other) :
    after.walk place names = .ok other := by
  induction names generalizing place with
  | nil => exact leads
  | cons name names ih =>
    rw [walk] at leads ⊢
    cases found : tree.item? place with
    | none => rw [found] at leads; cases leads
    | some item =>
      cases item with
      | file bytes => rw [found] at leads; cases leads
      | directory =>
        rw [found] at leads
        rw [kept place found]
        exact ih leads

/-- A way leads name by name to its place. -/
theorem eq_of_walk {names : List String} (leads : tree.walk place names = .ok other) :
    other = names.foldl Path.enter place := by
  induction names generalizing place with
  | nil => exact (Except.ok.inj leads).symm
  | cons name names ih =>
    rw [walk] at leads
    split at leads
    · exact ih leads
    · cases leads
    · cases leads

theorem locate_of_directories
    (kept : ∀ place, tree.item? place = some .directory → after.item? place = some .directory)
    {path : Path} (leads : tree.locate directory path = .ok place) :
    after.locate directory path = .ok place := by
  unfold locate at leads ⊢
  split at leads
  · cases leads
  · rename_i named
    rw [if_neg named]
    exact walk_of_directories kept leads

end FileTree

theorem FileTree.eq_destination_of_locate {tree : FileTree} {directory place : List String}
    {path : Path} (leads : tree.locate directory path = .ok place) :
    place = path.destination directory := by
  unfold locate at leads
  split at leads
  · cases leads
  · exact eq_of_walk leads

/-! ### Names in directories -/

/-- Whether a text is one name by itself, and not one that stays in place or goes up. -/
structure IsFileName (name : String) : Prop where
  slashless : '/' ∉ name.toList
  nullless : '\x00' ∉ name.toList
  proper : name ≠ "" ∧ name ≠ "." ∧ name ≠ ".."

namespace IsFileName

variable {name : String}

theorem part (file : IsFileName name) : Path.IsPart name :=
  ⟨file.slashless, file.proper⟩

/-- The place of a name in a directory lies in it. -/
theorem locate_child (file : IsFileName name) {tree : FileTree} {directory place : List String}
    {path : Path} (leads : tree.locate directory path = .ok place)
    (within : tree.item? place = some .directory) :
    tree.locate directory (path.child name) = .ok (place ++ [name]) := by
  unfold FileTree.locate at leads ⊢
  split at leads
  · cases leads
  · rename_i named
    -- The names of the path lead to the directory, so none of them breaks off.
    have named : ¬(path.names ++ [name]).any (·.toList.contains '\x00') := by
      rw [List.any_append, Bool.or_eq_true]
      rintro (before | here)
      · exact named before
      · exact file.nullless (by simpa using here)
    rw [file.part.child_eq, if_neg named]
    change tree.walk (if path.isAbsolute then [] else directory) (path.names ++ [name]) = _
    rw [FileTree.walk_append, leads]
    change tree.walk place [name] = _
    rw [FileTree.walk, within]
    dsimp only
    rw [if_neg file.proper.2.2, FileTree.walk]

/-- A path that ends with a name leads to a place of that name. -/
theorem exists_eq_of_locate_child (file : IsFileName name) {tree : FileTree}
    {directory place : List String} {path : Path}
    (leads : tree.locate directory (path.child name) = .ok place) :
    ∃ parent, place = parent ++ [name] := by
  unfold FileTree.locate at leads
  rw [file.part.child_eq] at leads
  split at leads
  · cases leads
  · dsimp only at leads
    rw [FileTree.walk_append, bind_eq_ok_iff] at leads
    obtain ⟨parent, -, step⟩ := leads
    -- The last step goes into a directory; from a file or from nothing no way leads on.
    rw [FileTree.walk] at step
    split at step
    · rw [if_neg file.proper.2.2, FileTree.walk] at step
      exact ⟨parent, (Except.ok.inj step).symm⟩
    · cases step
    · cases step

end IsFileName

/-! ### Free names -/

namespace FileTree

theorem numberedName_injective (opening ending : String) :
    Function.Injective (numberedName opening ending) := by
  intro m n same
  have letters := congrArg String.toList same
  simp only [numberedName, String.toList_append, List.append_assoc] at letters
  exact Text.decimal_injective
    (String.toList_injective (List.append_cancel_right (List.append_cancel_left letters)))

section NumberedName

variable {opening ending : String}

theorem toList_numberedName (opening ending : String) (n : Nat) :
    (numberedName opening ending n).toList =
      opening.toList ++ (Text.numeral 10 n ++ ending.toList) := by
  simp [numberedName, Text.decimal]

/-- A number brings no character but digits into a name. -/
theorem notMem_numberedName {c : Char} (noDigit : Text.isDigitOf 10 c = false)
    (outside : c ∉ opening.toList ++ ending.toList) (n : Nat) :
    c ∉ (numberedName opening ending n).toList := by
  -- A number is written with digits only.
  have digit (member : c ∈ Text.numeral 10 n) : Text.isDigitOf 10 c :=
    Text.isDigitOf_of_mem_toDigits (by decide) (by decide) member
  rw [toList_numberedName, List.mem_append, List.mem_append]
  rintro (member | member | member)
  · exact outside (List.mem_append_left _ member)
  · exact absurd (digit member) (by simp [noDigit])
  · exact outside (List.mem_append_right _ member)

/-- A number between texts without slashes that are longer than the names that lead nowhere is a
part of a path. -/
theorem isPart_numberedName (slashless : '/' ∉ opening.toList ++ ending.toList)
    (long : 2 < opening.length + ending.length) (n : Nat) :
    Path.IsPart (numberedName opening ending n) := by
  have longer : 2 < (numberedName opening ending n).length := by
    rw [← String.length_toList, toList_numberedName, List.length_append, List.length_append,
      String.length_toList, String.length_toList]
    omega
  refine ⟨notMem_numberedName (by decide) slashless n, ?_, ?_, ?_⟩
  all_goals
    intro same
    rw [same] at longer
    revert longer
    decide

end NumberedName

/-- Of the numbered names in a directory, one more than there are items, one is free. -/
theorem exists_numberedName_free (tree : FileTree) (directory : List String)
    (opening ending : String) : ∃ n ∈ List.range (tree.items.length + 1),
      tree.item? (directory ++ [numberedName opening ending n]) = none := by
  by_contra! taken
  have distinct : Function.Injective fun n => directory ++ [numberedName opening ending n] := by
    intro m n same
    exact numberedName_injective opening ending
      (List.singleton_injective (List.append_cancel_left same))
  have keys : (List.range (tree.items.length + 1)).map
      -- If all were taken, each would be the place of an item, and there would be too few items.
      (fun n => directory ++ [numberedName opening ending n]) ⊆ tree.items.map Prod.fst := by
    intro place member
    obtain ⟨n, bounded, rfl⟩ := List.mem_map.mp member
    obtain ⟨item, found⟩ := Option.ne_none_iff_exists'.mp (taken n bounded)
    rw [item?, if_neg (by simp)] at found
    obtain ⟨before, behind, split, -⟩ := List.lookup_eq_some_iff.mp found
    rw [split]
    simp
  have fewer := (List.Nodup.subperm (List.nodup_range.map distinct) keys).length_le
  simp at fewer

theorem item?_freshName (tree : FileTree) (directory : List String) (opening ending : String) :
    tree.item? (directory ++ [tree.freshName directory opening ending]) = none := by
  obtain ⟨n, bounded, free⟩ := exists_numberedName_free tree directory opening ending
  unfold freshName
  dsimp only
  cases found : (List.range (tree.items.length + 1)).find? fun n =>
      (tree.item? (directory ++ [numberedName opening ending n])).isNone with
  | none =>
    have taken := List.find?_eq_none.mp found n bounded
    simp [free] at taken
  | some number => simpa using List.find?_some found

/-- A free name with such an opening and ending is a number between the two. -/
theorem exists_freshName_eq (tree : FileTree) (directory : List String) (opening ending : String) :
    ∃ n, tree.freshName directory opening ending = numberedName opening ending n :=
  ⟨_, rfl⟩

end FileTree

end EntryPoint
