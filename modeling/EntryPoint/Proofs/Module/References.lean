/-
# Imports of references

Each file that exports something gives one import, in the order of the files, and
the import takes over what the file exports under its own names.

## Main definitions

* `FirstOccurrences` - the names of a sequence, each once.

## Main results

* `firstOccurrences_importedExports` - the names that are imported from a file.
* `relativeModule_eq_ok_iff` - the module of a file as seen from another one.
* `mem_referenceImports_iff` - the imports of a signature.
* `exists_mem_referenceImports` - no file that exports something goes without import.
-/

import EntryPoint.Module.References
import EntryPoint.Proofs.Outcome
import Mathlib.Data.List.Basic

namespace EntryPoint

open Syntax Text

variable {directory : List String} {output : Path} {signature : Signature} {imports : List Stmt}

/-! ### Exported names -/

/-- The names of a sequence, each once, in the order in which they first occur. -/
structure FirstOccurrences (sequence names : List String) : Prop where
  mem_iff : ∀ name, name ∈ names ↔ name ∈ sequence
  ordered : names.Pairwise fun first second => sequence.idxOf first < sequence.idxOf second

namespace FirstOccurrences

variable {sequence names : List String}

theorem nodup (occurrences : FirstOccurrences sequence names) : names.Nodup :=
  occurrences.ordered.imp fun before same => Nat.ne_of_lt before (congrArg sequence.idxOf same)

/-- One more name stands behind all others, unless it has occurred. -/
theorem concat (occurrences : FirstOccurrences sequence names) (name : String) :
    FirstOccurrences (sequence ++ [name])
      (if names.contains name then names else names ++ [name]) := by
  obtain ⟨members, ordered⟩ := occurrences
  -- Where names first occur does not depend on what is added behind the sequence.
  have earlier : names.Pairwise fun first second =>
      (sequence ++ [name]).idxOf first < (sequence ++ [name]).idxOf second := by
    refine ordered.imp_of_mem fun first second before => ?_
    rwa [List.idxOf_append_of_mem ((members _).mp first),
      List.idxOf_append_of_mem ((members _).mp second)]
  split
  · rename_i known
    have occurred := (members name).mp (List.contains_iff_mem.mp known)
    refine ⟨fun other => ?_, earlier⟩
    rw [members, List.mem_append, List.mem_singleton]
    exact ⟨.inl, fun member => member.elim id fun same => same ▸ occurred⟩
  · rename_i new
    -- Names and sequence have the same members, so a new name did not occur either.
    have absent : name ∉ sequence := fun member =>
      new (List.contains_iff_mem.mpr ((members name).mpr member))
    refine ⟨fun other => ?_, List.pairwise_append.mpr ⟨earlier, List.pairwise_singleton _ _, ?_⟩⟩
    · rw [List.mem_append, List.mem_append, members]
    · intro first listed second member
      obtain rfl := List.mem_singleton.mp member
      have occurred := (members first).mp listed
      rw [List.idxOf_append_of_mem occurred, List.idxOf_append_of_notMem absent]
      exact Nat.lt_add_right _ (List.idxOf_lt_length_of_mem occurred)

end FirstOccurrences

/-- The names that are imported from a file are its first default export and its named exports, as
they first occur. -/
theorem firstOccurrences_importedExports (exports : Exports) :
    FirstOccurrences (exports.default.take 1 ++ exports.named) (importedExports exports) := by
  -- The invariant of the fold: the names so far are the first occurrences in the sequence so far.
  have collected (named : List String) {sequence names : List String}
      (occurrences : FirstOccurrences sequence names) :
      FirstOccurrences (sequence ++ named) (named.foldl (fun names name =>
        if names.contains name then names else names ++ [name]) names) := by
    induction named generalizing sequence names with
    | nil => rwa [List.append_nil]
    | cons first named ih =>
      rw [List.foldl_cons, List.append_cons]
      exact ih (occurrences.concat first)
  refine collected exports.named ⟨fun name => Iff.rfl, ?_⟩
  cases exports.default with
  | nil => exact .nil
  | cons first others => exact List.pairwise_singleton _ _

/-- A name that occurs again is not imported again, and further default exports are not. -/
example : importedExports
    { default := ["main", "other"], named := ["greet", "main", "greet", "leave"] } =
      ["main", "greet", "leave"] := by
  decide

theorem mem_importedExports_iff {exports : Exports} {name : String} :
    name ∈ importedExports exports ↔ exports.default.head? = some name ∨ name ∈ exports.named := by
  rw [(firstOccurrences_importedExports exports).mem_iff, List.mem_append]
  cases exports.default with
  | nil => simp
  | cons first others => simp [eq_comm]

/-! ### Modules of files -/

/-- Steps upwards in front of a way leave the names that follow them. -/
theorem downward_replicate_append (n : Nat) {names : List String} (upless : ".." ∉ names) :
    downward (List.replicate n ".." ++ names) = names := by
  rw [downward, List.dropWhile_append_of_pos (by simp)]
  cases names with
  | nil => rfl
  | cons first names =>
    rw [List.mem_cons, not_or] at upless
    rw [List.dropWhile_cons_of_neg (by simpa using Ne.symm upless.1)]

/-- The names on the way from a file down to the module of another one. -/
def segmentsTo (directory : List String) (output : Path) (target : List String) : List String :=
  downward (relativeNames (output.parent.resolve directory) target)

/-- The module of a file as seen from another file has identifiers as its segments, and a point in
front of it at least. -/
theorem relativeModule_eq_ok_iff {source : Path} {module : Option String} {level : Nat} :
    relativeModule directory output source = .ok (module, level) ↔
      ∃ target, modulePath directory source = .ok target ∧
        (∀ segment ∈ segmentsTo directory output target, isIdentifier segment) ∧
        module = (if (segmentsTo directory output target).isEmpty then none
          else some (".".intercalate (segmentsTo directory output target))) ∧
        level = (relativeNames (output.parent.resolve directory) target).length -
          (segmentsTo directory output target).length + 1 := by
  unfold relativeModule segmentsTo
  rw [bind_eq_ok_iff]
  refine exists_congr fun target => and_congr_right fun _ => ?_
  dsimp only
  generalize relativeNames (output.parent.resolve directory) target = way
  split
  -- The failure is about the first segment that is no identifier.
  · rename_i segment found
    have member := List.mem_of_find?_eq_some found
    have other := List.find?_some found
    simp only [fail, reduceCtorEq, false_iff, not_and]
    intro identifiers
    rw [identifiers segment member] at other
    cases other
  · rename_i missing
    rw [List.find?_eq_none] at missing
    have identifiers : ∀ segment ∈ downward way, isIdentifier segment :=
      fun segment member => by simpa using missing segment member
    simp only [Except.ok.injEq, Prod.mk.injEq]
    exact ⟨fun same => ⟨identifiers, same.1.symm, same.2.symm⟩,
      fun same => ⟨same.2.1.symm, same.2.2.symm⟩⟩

/-! ### Imports -/

/-- The import of given names from a module. -/
def importOf (source : Option String) (names : List String) (level : Nat) : Stmt :=
  .importFrom source (names.map fun name => { name }) level

/-- A file that exports nothing has no import, any other has one. -/
theorem referenceImport_eq_ok_iff {reference : Path × Exports} {result : Option Stmt} :
    referenceImport directory output reference = .ok result ↔
      (importedExports reference.2 = [] ∧ result = none) ∨
      (importedExports reference.2 ≠ [] ∧ ∃ source level,
        relativeModule directory output reference.1 = .ok (source, level) ∧
        result = some (importOf source (importedExports reference.2) level)) := by
  unfold referenceImport
  split
  · rename_i nothing
    simp [nothing, eq_comm]
  · rename_i names something
    have exported : importedExports reference.2 ≠ [] := something
    simp only [bind_eq_ok_iff, Prod.exists, Except.ok.injEq, importOf]
    simp [eq_comm, exported]

/-- The imports of a signature are those of the files that export something. -/
theorem mem_referenceImports_iff
    (imported : referenceImports directory output signature = .ok imports) {stmt : Stmt} :
    stmt ∈ imports ↔ ∃ reference ∈ signature.references, ∃ source level,
      importedExports reference.2 ≠ [] ∧
      relativeModule directory output reference.1 = .ok (source, level) ∧
      stmt = importOf source (importedExports reference.2) level := by
  unfold referenceImports at imported
  obtain ⟨results, collected, same⟩ := bind_eq_ok_iff.mp imported
  obtain rfl := Except.ok.inj same
  rw [List.mem_filterMap]
  simp only [id_eq, exists_eq_right, mem_of_mapM_eq_ok collected, referenceImport_eq_ok_iff,
    reduceCtorEq, and_false, false_or, Option.some.injEq, exists_and_left]

/-- Where the references of a signature can be imported, each file that exports something has a
module as seen from the other file. -/
theorem exists_relativeModule
    (imported : referenceImports directory output signature = .ok imports)
    {reference : Path × Exports} (member : reference ∈ signature.references)
    (exported : importedExports reference.2 ≠ []) :
    ∃ source level, relativeModule directory output reference.1 = .ok (source, level) := by
  obtain ⟨results, collected, -⟩ := bind_eq_ok_iff.mp imported
  obtain ⟨result, made⟩ := exists_of_mapM_eq_ok collected member
  rcases referenceImport_eq_ok_iff.mp made with ⟨nothing, -⟩ | ⟨-, source, level, found, -⟩
  · exact absurd nothing exported
  · exact ⟨source, level, found⟩

/-- Where the references of a signature can be imported, each file that exports something is. -/
theorem exists_mem_referenceImports
    (imported : referenceImports directory output signature = .ok imports)
    {reference : Path × Exports} (member : reference ∈ signature.references)
    (exported : importedExports reference.2 ≠ []) :
    ∃ source level, importOf source (importedExports reference.2) level ∈ imports := by
  obtain ⟨source, level, found⟩ := exists_relativeModule imported member exported
  exact ⟨source, level, (mem_referenceImports_iff imported).mpr
    ⟨reference, member, source, level, exported, found, rfl⟩⟩

end EntryPoint
