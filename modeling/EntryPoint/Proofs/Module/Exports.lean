/-
# Exports taken over

The files that export something and the imports of a module stand side by side, in
order. Each import takes over what its file exports: under its own names, each once,
the first default export in front of the named ones. A file that exports nothing has
no import, and cannot keep a module from being written, wherever it lies.

## Main definitions

* `Exports.AreSome` - a file exports something.
* `TakesOver` - the items of an import take over the exports of a file.

## Main results

* `takesOver_iff` - the items that take over the exports of a file.
* `referenceImports_eq_mapM` - the files that export nothing have no part in the imports.
* `referenceImports_outcome` - the imports of a signature, or that there are none.
-/

import EntryPoint.Proofs.Module.References
import Mathlib.Data.List.Sort

namespace EntryPoint

open Syntax

variable {directory : List String} {output : Path} {exports : Exports}

/-! ### First occurrences -/

namespace FirstOccurrences

variable {sequence names others : List String}

/-- A sequence has its names in one order of first occurrence. -/
theorem unique (occurrences : FirstOccurrences sequence names)
    (occurrences' : FirstOccurrences sequence others) : others = names := by
  have asymmetric : Std.Antisymm fun first second : String =>
      sequence.idxOf first < sequence.idxOf second :=
    ⟨fun _ _ before behind => absurd before (Nat.lt_asymm behind)⟩
  have irreflexive : Std.Irrefl fun first second : String =>
      sequence.idxOf first < sequence.idxOf second :=
    ⟨fun _ => Nat.lt_irrefl _⟩
  exact occurrences'.ordered.eq_of_mem_iff occurrences.ordered fun name =>
    (occurrences'.mem_iff name).trans (occurrences.mem_iff name).symm

/-- The first name of a sequence stands in front. -/
theorem head?_eq {first : String}
    (occurrences : FirstOccurrences (first :: sequence) names) : names.head? = some first := by
  obtain ⟨mem_iff, ordered⟩ := occurrences
  cases names with
  | nil => cases (mem_iff first).mpr (.head _)
  | cons name names =>
    rcases List.mem_cons.mp ((mem_iff first).mpr (.head _)) with rfl | behind
    · rfl
    · have before := (List.pairwise_cons.mp ordered).1 first behind
      rw [List.idxOf_cons_self] at before
      cases before

end FirstOccurrences

/-! ### What a file exports -/

/-- A file exports something, by default or by name. -/
def Exports.AreSome (exports : Exports) : Prop :=
  exports.default ≠ [] ∨ exports.named ≠ []

instance (exports : Exports) : Decidable exports.AreSome :=
  inferInstanceAs (Decidable (_ ∨ _))

theorem importedExports_eq_nil_iff : importedExports exports = [] ↔ ¬exports.AreSome := by
  rw [Exports.AreSome, List.eq_nil_iff_forall_not_mem]
  simp only [mem_importedExports_iff]
  cases exports.default with
  | nil => simp [List.eq_nil_iff_forall_not_mem]
  | cons first others => exact iff_of_false (fun none => none first (.inl rfl)) (by simp)

/-! ### What an import takes over -/

/-- The items of an import take over the exports of a file. -/
structure TakesOver (exports : Exports) (items : List Alias) : Prop where
  unrenamed : ∀ item ∈ items, item.asName = none
  distinct : (items.map (·.name)).Nodup
  leads : ∀ name, exports.default.head? = some name → (items.map (·.name)).head? = some name
  mem_iff : ∀ name, name ∈ items.map (·.name) ↔
    exports.default.head? = some name ∨ name ∈ exports.named
  ordered : (items.map (·.name)).Pairwise fun first second =>
    (exports.default.take 1 ++ exports.named).idxOf first <
      (exports.default.take 1 ++ exports.named).idxOf second

/-- The exports of a file are taken over in one way. -/
theorem takesOver_iff {items : List Alias} :
    TakesOver exports items ↔ items = (importedExports exports).map fun name => { name } := by
  have occurrences := firstOccurrences_importedExports exports
  have names : ((importedExports exports).map fun name => ({ name } : Alias)).map (·.name) =
      importedExports exports := by
    simp [Function.comp_def]
  constructor
  · rintro ⟨unrenamed, -, -, mem_iff, ordered⟩
    have occurrences' : FirstOccurrences (exports.default.take 1 ++ exports.named)
        (items.map (·.name)) :=
      ⟨fun name => (mem_iff name).trans
        (mem_importedExports_iff.symm.trans (occurrences.mem_iff name)), ordered⟩
    -- The names are settled by their order, and the items hold nothing else.
    rw [← occurrences.unique occurrences', List.map_map]
    refine (List.map_id _).symm.trans (List.map_congr_left fun item member => ?_)
    have own := unrenamed item member
    cases item
    cases own
    rfl
  · rintro rfl
    refine ⟨fun item member => ?_, ?_, fun first leads => ?_, fun name => ?_, ?_⟩
    -- What is imported is not renamed, has no name twice, and keeps the order of the exports.
    · obtain ⟨name, -, rfl⟩ := List.mem_map.mp member
      rfl
    · rw [names]
      exact occurrences.nodup
    · obtain ⟨others, opened⟩ := List.head?_eq_some_iff.mp leads
      rw [opened] at occurrences
      rw [names]
      exact occurrences.head?_eq
    · rw [names]
      exact mem_importedExports_iff
    · rw [names]
      exact occurrences.ordered

/-! ### Files and imports -/

/-- The import of a file that exports something. -/
def importing (directory : List String) (output : Path) (reference : Path × Exports) :
    Except Fault Stmt := do
  let (source, level) ← relativeModule directory output reference.1
  return importOf source (importedExports reference.2) level

theorem referenceImport_of_areSome {reference : Path × Exports} (exporting : reference.2.AreSome) :
    referenceImport directory output reference =
      importing directory output reference >>= fun stmt => .ok (some stmt) := by
  unfold referenceImport importing
  split
  · rename_i nothing
    exact absurd exporting (importedExports_eq_nil_iff.mp nothing)
  · rw [bind_assoc]
    rfl

theorem referenceImport_of_not_areSome {reference : Path × Exports}
    (silent : ¬reference.2.AreSome) :
    referenceImport directory output reference = .ok none := by
  rw [referenceImport, importedExports_eq_nil_iff.mpr silent]

/-- The imports of a signature are those of the files that export something, in order. -/
theorem referenceImports_eq_mapM {signature : Signature} :
    referenceImports directory output signature =
      (signature.references.filter (·.2.AreSome)).mapM (importing directory output) := by
  unfold referenceImports
  induction signature.references with
  | nil => rfl
  | cons first references ih =>
    -- A reference without exports is left out on both sides.
    rw [List.mapM_cons]
    by_cases exporting : first.2.AreSome
    · rw [List.filter_cons_of_pos (by simpa using exporting), List.mapM_cons, ← ih,
        referenceImport_of_areSome exporting]
      simp only [bind_assoc]
      rfl
    · rw [List.filter_cons_of_neg (by simpa using exporting), ← ih,
        referenceImport_of_not_areSome exporting]
      -- Nothing is put in front of the imports behind, which may stop all the same.
      cases references.mapM (referenceImport directory output) with
      | error fault => rfl
      | ok results => rfl

theorem importing_eq_ok_iff {reference : Path × Exports} {stmt : Stmt} :
    importing directory output reference = .ok stmt ↔ ∃ source level items,
      relativeModule directory output reference.1 = .ok (source, level) ∧
      TakesOver reference.2 items ∧ stmt = .importFrom source items level := by
  unfold importing
  rw [bind_eq_ok_iff]
  constructor
  · rintro ⟨⟨source, level⟩, found, same⟩
    exact ⟨source, level, _, found, takesOver_iff.mpr rfl, (Except.ok.inj same).symm⟩
  · rintro ⟨source, level, items, found, takes, rfl⟩
    obtain rfl := takesOver_iff.mp takes
    exact ⟨(source, level), found, rfl⟩

theorem exists_importing_eq_error_iff {reference : Path × Exports} :
    (∃ fault, importing directory output reference = .error fault) ↔
      ∃ fault, relativeModule directory output reference.1 = .error fault := by
  unfold importing
  cases relativeModule directory output reference.1 with
  | error fault => exact iff_of_true ⟨fault, rfl⟩ ⟨fault, rfl⟩
  | ok specifier =>
    refine iff_of_false ?_ ?_
    · rintro ⟨fault, ⟨⟩⟩
    · rintro ⟨fault, ⟨⟩⟩

/-- The imports of a signature stand beside the files that export something, and each takes over the
exports of its file from the module of the file. They are given exactly if all of these files have a
module. -/
theorem referenceImports_outcome (directory : List String) (output : Path)
    (signature : Signature) :
    (∀ imports, referenceImports directory output signature = .ok imports ↔
      List.Forall₂ (fun reference stmt => ∃ source level items,
          relativeModule directory output reference.1 = .ok (source, level) ∧
          TakesOver reference.2 items ∧ stmt = .importFrom source items level)
        (signature.references.filter (·.2.AreSome)) imports) ∧
    ((∃ fault, referenceImports directory output signature = .error fault) ↔
      ∃ reference ∈ signature.references, reference.2.AreSome ∧
        ∃ fault, relativeModule directory output reference.1 = .error fault) := by
  rw [referenceImports_eq_mapM]
  constructor
  · intro imports
    simp only [mapM_eq_ok_iff_forall₂, importing_eq_ok_iff]
  · simp only [exists_mapM_eq_error_iff, exists_importing_eq_error_iff, List.mem_filter,
      decide_eq_true_eq, and_assoc]

end EntryPoint
