/-
# Well-formed imports of references

The import of a file is made of texts of the user: the names on the way to the file,
and the names that it exports. The names on the way are identifiers, but they may be
reserved words, and what a file exports may be any text. Where neither happens, the
rendered line is read as the import again.

## Main definitions

* `WellFormedImport` - imports from relative modules whose names can be bound.
* `Importable` - references that lead to such imports.

## Main results

* `imports_wellFormed_iff` - the imports of a module are well-formed exactly if all references that
  export something are importable; each is one line that is read as that import.
-/

import EntryPoint.Proofs.Module.Printing
import EntryPoint.Proofs.Text.Split

namespace EntryPoint

open Syntax Text

variable {site : Site} {signature : Signature} {options : Options} {context : Context}
  {module imports : List Stmt} {source : Option String} {names : List Alias} {level : Nat}
  {segments exported : List String} {reference : Path × Exports}

/-! ### Well-formed imports -/

/-- The parts of the name of a module, between points. -/
def sourceParts : Option String → List String
  | none => []
  | some name => (partsOf '.' name.toList).map String.ofList

/-- An import from a relative module in which every name can be bound. -/
structure WellFormedImport (source : Option String) (names : List Alias) (level : Nat) : Prop where
  relative : 1 ≤ level
  parts : ∀ part ∈ sourceParts source, isBindable part
  names : ∀ item ∈ names, isBindable item.name

theorem sourceParts_sourceOf (identifiers : ∀ segment ∈ segments, isIdentifier segment) :
    sourceParts (sourceOf segments) = segments := by
  cases segments with
  | nil => rfl
  | cons first others =>
    have parts : partsOf '.' (".".intercalate (first :: others)).toList =
        (first :: others).map String.toList :=
      partsOf_intercalate rfl (List.cons_ne_nil first others)
        fun name member => point_notMem_identifier (identifiers name member)
    rw [sourceOf, if_neg (by simp), sourceParts, parts, List.map_map]
    simp [Function.comp_def]

theorem mem_sourceParts_sourceOf (identifiers : ∀ segment ∈ segments, isIdentifier segment)
    (part : String) : part ∈ sourceParts (sourceOf segments) ↔ part ∈ segments := by
  rw [sourceParts_sourceOf identifiers]

/-! ### References -/

/-- A reference on the way to which no name is a reserved word, and whose exports can be bound. -/
structure Importable (site : Site) (reference : Path × Exports) : Prop where
  way : ∀ target, modulePath site.directory reference.1 = .ok target →
    ∀ segment ∈ segmentsTo site.directory site.output target, isKeyword segment = false
  exports : ∀ name ∈ importedExports reference.2, isBindable name

/-- The import of a reference is well-formed exactly if the reference is importable. -/
theorem wellFormedImport_iff
    (found : relativeModule site.directory site.output reference.1 = .ok (source, level)) :
    WellFormedImport source ((importedExports reference.2).map fun name => { name }) level ↔
      Importable site reference := by
  obtain ⟨target, placed, identifiers, rfl, rfl⟩ := relativeModule_eq_ok_iff.mp found
  have parts := mem_sourceParts_sourceOf identifiers
  -- A module that is imported is checked for identifiers already; what is left are the reserved
  -- words.
  constructor
  · rintro ⟨-, bindable, names⟩
    refine ⟨fun other same segment member => ?_, fun name member => ?_⟩
    · obtain rfl := Except.ok.inj (placed.symm.trans same)
      have bindable := bindable segment ((parts segment).mpr member)
      rw [isBindable, Bool.and_eq_true, Bool.not_eq_true'] at bindable
      exact bindable.2
    · exact names { name } (List.mem_map_of_mem member)
  · rintro ⟨way, exports⟩
    refine ⟨Nat.succ_pos _, fun part member => ?_, fun item member => ?_⟩
    · have member := (parts part).mp member
      rw [isBindable, identifiers part member, way target placed part member]
      rfl
    · obtain ⟨name, listed, rfl⟩ := List.mem_map.mp member
      exact exports name listed

/-! ### One line -/

/-- The line of an import holds no break, if its names are identifiers. -/
theorem lineFeed_notMem_importFromLine (identifiers : ∀ segment ∈ segments, isIdentifier segment)
    (exports : ∀ name ∈ exported, isIdentifier name) :
    '\n' ∉
      (importFromLine (sourceOf segments) (exported.map fun name => { name }) level).toList := by
  have unbroken (names : List String) (joint : String) (joins : '\n' ∉ joint.toList)
      (each : ∀ name ∈ names, isIdentifier name) : '\n' ∉ (joint.intercalate names).toList := by
    intro member
    rcases mem_intercalate member with member | ⟨name, listed, member⟩
    · exact joins member
    · cases isWordCharacter_of_mem_identifier (each name listed) member
  -- Without other names each alias is printed as its name.
  have shown : exported.map (Alias.print ∘ fun name => { name }) = exported := by
    simp [Function.comp_def, Alias.print]
  have parts := unbroken segments "." (by decide) identifiers
  have names := unbroken exported ", " (by decide) exports
  have words : '\n' ∉ "from ".toList ∧ '\n' ∉ " import ".toList := by decide
  simp only [importFromLine, sourceOf_getD, List.map_map, shown, commas, String.toList_append,
    String.toList_ofList, List.mem_append, List.mem_replicate, not_or]
  exact ⟨⟨⟨⟨words.1, by simp⟩, parts⟩, words.2⟩, names⟩

/-! ### The imports of a module -/

/-- The imports from other modules are those of the references. -/
theorem importFrom_mem_layout_iff {declared : List Link} :
    .importFrom source names level ∈ layout signature options context declared imports ↔
      .importFrom source names level ∈ imports := by
  have closes : Stmt.importFrom source names level ∉ closing options context := fun member => by
    cases eq_invocation_of_mem_closing member
  simp [layout, opening, closes, ownImport, exportsList, assignName, wrapperFunction]

/-- The imports of a module are well-formed exactly if all references that export something are
importable. Each comes from a relative module of identifiers, and a well-formed one is a line that
is read as that import, if its names are read as they are written. -/
theorem imports_wellFormed_iff (imported : context.inlines = false)
    (rendered : render site signature options context = .ok module) :
    ((∀ source names level, .importFrom source names level ∈ module →
        WellFormedImport source names level) ↔
      ∀ reference ∈ signature.references, importedExports reference.2 ≠ [] →
        Importable site reference) ∧
    ∀ source names level, .importFrom source names level ∈ module →
      1 ≤ level ∧ (∀ part ∈ sourceParts source, isIdentifier part) ∧
      (WellFormedImport source names level →
        '\n' ∉ (importFromLine source names level).toList ∧
        ((∀ name ∈ sourceParts source ++ names.map (·.name),
            name.toList.all isAscii ∨ normalForm name = name) →
          printModule [.importFrom source names level] =
              .ok (importFromLine source names level ++ "\n") ∧
            readModule (importFromLine source names level ++ "\n") =
              .ok [.importFrom source names level])) := by
  obtain ⟨-, -, declared, imports, -, referenced, rfl⟩ := (render_eq_ok_iff imported).mp rendered
  -- What is imported from elsewhere comes from the references, one import for each with exports.
  simp only [importFrom_mem_layout_iff]
  constructor
  · constructor
    · intro wellFormed reference listed exported
      obtain ⟨source, level, found⟩ := exists_relativeModule referenced listed exported
      refine (wellFormedImport_iff found).mp (wellFormed source _ level ?_)
      exact (mem_referenceImports_iff referenced).mpr
        ⟨reference, listed, source, level, exported, found, rfl⟩
    · intro importable source names level member
      obtain ⟨reference, listed, _, _, exported, found, same⟩ :=
        (mem_referenceImports_iff referenced).mp member
      obtain ⟨rfl, rfl, rfl⟩ := Stmt.importFrom.inj same
      exact (wellFormedImport_iff found).mpr (importable reference listed exported)
  · intro source names level member
    obtain ⟨reference, listed, _, _, exported, found, same⟩ :=
      (mem_referenceImports_iff referenced).mp member
    obtain ⟨rfl, rfl, rfl⟩ := Stmt.importFrom.inj same
    obtain ⟨target, -, identifiers, rfl, rfl⟩ := relativeModule_eq_ok_iff.mp found
    have parts := mem_sourceParts_sourceOf identifiers
    refine ⟨Nat.succ_pos _, fun part member => identifiers part ((parts part).mp member),
      fun wellFormed => ?_⟩
    -- From here on the names can be bound, so that the line is read back word by word.
    have bindable : ∀ name ∈ importedExports reference.2, isBindable name := fun name listed =>
      wellFormed.names { name } (List.mem_map_of_mem listed)
    refine ⟨lineFeed_notMem_importFromLine identifiers fun name listed =>
      isIdentifier_of_isBindable (bindable name listed), fun settled => ?_⟩
    have isSegment : ∀ segment ∈ segmentsTo site.directory site.output target, IsName segment :=
      fun segment member => ⟨wellFormed.parts segment ((parts segment).mpr member),
        settled segment (List.mem_append_left _ ((parts segment).mpr member))⟩
    have isName : ∀ name ∈ importedExports reference.2, IsName name := fun name listed =>
      ⟨bindable name listed, settled name (List.mem_append_right _ (by simpa using listed))⟩
    exact readModule_of_simple
      (importFrom_simple (Nat.succ_pos _) isSegment isName exported) rfl (by simp [importFromLine])

/-- A function whose only reference is a file beside the module with one export. -/
def exportedBy (file name : String) : Signature :=
  { exporting "greet" with references := [(⟨.none, [file]⟩, { named := [name] })] }

theorem imports_wellFormed_words :
    ∃ module, render besideFile (exportedBy "words.py" "greet") {} {} = .ok module ∧
      .importFrom (some "words") [{ name := "greet" }] 1 ∈ module ∧
      WellFormedImport (some "words") [{ name := "greet" }] 1 ∧
      printModule [.importFrom (some "words") [{ name := "greet" }] 1] =
        .ok "from .words import greet\n" ∧
      readModule "from .words import greet\n" =
        .ok [.importFrom (some "words") [{ name := "greet" }] 1] := by
  obtain ⟨module, rendered, member⟩ : ∃ module,
      render besideFile (exportedBy "words.py" "greet") {} {} = .ok module ∧
        .importFrom (some "words") [{ name := "greet" }] 1 ∈ module :=
    ⟨_, rfl, .tail _ (.tail _ (.head _))⟩
  obtain ⟨wellFormed_iff, each⟩ := imports_wellFormed_iff rfl rendered
  have importable : Importable besideFile (⟨.none, ["words.py"]⟩, { named := ["greet"] }) := by
    refine ⟨fun target placed => ?_, List.forall_mem_singleton.mpr (by decide)⟩
    obtain rfl : ["work", "words"] = target := Except.ok.inj placed
    exact List.forall_mem_singleton.mpr (by decide)
  have wellFormed :=
    wellFormed_iff.mpr (List.forall_mem_singleton.mpr fun _ => importable) _ _ _ member
  obtain ⟨-, -, oneLine⟩ := each _ _ _ member
  obtain ⟨-, readsBack⟩ := oneLine wellFormed
  exact ⟨module, rendered, member, wellFormed, readsBack (by decide)⟩

/-- Neither a reserved word on the way to a file nor a line break in an export is refused. -/
theorem import_of_class_malformed :
    (∃ module, render besideFile (exportedBy "class.py" "greet") {} {} = .ok module ∧
      .importFrom (some "class") [{ name := "greet" }] 1 ∈ module ∧
      ¬WellFormedImport (some "class") [{ name := "greet" }] 1 ∧
      (readModule (importFromLine (some "class") [{ name := "greet" }] 1 ++ "\n")).isOk = false) ∧
    ∃ module, render besideFile (exportedBy "words.py" "greet\nimport os") {} {} = .ok module ∧
      .importFrom (some "words") [{ name := "greet\nimport os" }] 1 ∈ module ∧
      readModule (importFromLine (some "words") [{ name := "greet\nimport os" }] 1 ++ "\n") =
        .ok [.importFrom (some "words") [{ name := "greet" }] 1,
          .importModules [{ name := "os" }]] := by
  refine ⟨⟨_, rfl, .tail _ (.tail _ (.head _)), fun wellFormed => ?_, by decide +kernel⟩,
    _, rfl, .tail _ (.tail _ (.head _)), ?_⟩
  · have bindable := wellFormed.parts "class" (by decide)
    cases bindable
  -- The name with a line end is printed as a line of its own, which is a second import.
  · have isName : IsName "words" ∧ IsName "greet" ∧ IsName "os" :=
      ⟨.ascii (by decide), .ascii (by decide), .ascii (by decide)⟩
    have greeting : (Stmt.importFrom (sourceOf ["words"])
        (["greet"].map fun name => { name }) 1).Simple 0 _ _ :=
      importFrom_simple (by decide) (List.forall_mem_singleton.mpr isName.1)
        (List.forall_mem_singleton.mpr isName.2.1) (by decide)
    have system := importModule_simple isName.2.2
    obtain ⟨text, printed, read⟩ := readModule_of_bodyWritten
      (.cons greeting.written (.one system.written)) rfl (by decide) (Nat.zero_le _)
    obtain rfl := Except.ok.inj (printed.symm.trans rfl)
    exact read

end EntryPoint
