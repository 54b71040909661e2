/-
# Modules in another place

A module is generated for a file in a directory, and the files that it imports lie
in that directory as well. Neither the directory nor the current one has a part in
the module, but for a file whose module would be the directory above: there is none
above the root.

## Main definitions

* `LeadsOut` - the module of a file would be the directory above.
* `Signature.below` - a signature with its files in a directory.

## Main results

* `relativeModule_join` - the module of a file as seen from another one.
* `renderBelow_eq_ok_iff` - the text of a module in a directory.
* `renderSource_relocated` - its texts in two directories.
-/

import EntryPoint.Proofs.Module.Inlining
import EntryPoint.Proofs.Module.Printing
import EntryPoint.Proofs.Path
import Mathlib.Algebra.Order.BigOperators.Group.List

namespace EntryPoint

open Syntax Text

/-! ### Places of modules -/

/-- The place of the module of a file, seen from the directory that the names of the file start
in. -/
def moduleBelow (names : List String) : List String :=
  if names.getLast? = some packageFile then names.dropLast
  else Path.normalize (names.dropLast ++ [(Path.splitSuffix (names.getLastD "")).1])

/-- The module of a file would be the directory above the one that its names start in. -/
def LeadsOut (names : List String) : Prop :=
  names.length = 1 ∧ (Path.splitSuffix (names.getLastD "")).1 = ".."

instance (names : List String) : Decidable (LeadsOut names) :=
  inferInstanceAs (Decidable (_ ∧ _))

variable {base other output source : Path} {directory : List String}

/-- A path names a file below the directory that it starts in. -/
structure Path.IsBelow (path : Path) : Prop where
  relative : path.isAbsolute = false
  plain : Path.IsPlain path.names
  named : path.names ≠ []

/-- A path from a root names a directory. -/
structure Path.IsBase (path : Path) : Prop where
  absolute : path.isAbsolute = true
  plain : Path.IsPlain path.names

theorem resolve_join (starts : base.IsBase) (below : source.IsBelow) (directory : List String) :
    (base.join source).resolve directory = base.names ++ source.names := by
  rw [Path.join_of_relative below.relative]
  refine Path.resolve_of_isAbsolute ?_ (starts.plain.append below.plain) directory
  exact starts.absolute

theorem resolve_parent_join (starts : base.IsBase) (below : source.IsBelow)
    (directory : List String) :
    (base.join source).parent.resolve directory = base.names ++ source.names.dropLast := by
  rw [Path.join_of_relative below.relative, Path.parent, List.dropLast_append_of_ne_nil below.named]
  refine Path.resolve_of_isAbsolute ?_ (starts.plain.append below.plain.dropLast) directory
  exact starts.absolute

/-- The module of a file that leads nowhere else lies below the directory. -/
theorem modulePath_join (starts : base.IsBase) (below : source.IsBelow)
    (within : ¬LeadsOut source.names) :
    modulePath directory (base.join source) = .ok (base.names ++ moduleBelow source.names) := by
  obtain ⟨above, name, split⟩ := (List.eq_nil_or_concat source.names).resolve_left below.named
  rw [List.concat_eq_append] at split
  have plain : Path.IsPlain above := by simpa [split] using below.plain.dropLast
  unfold modulePath moduleBelow
  rw [resolve_join starts below, split]
  simp only [← List.append_assoc, List.getLast?_concat, List.dropLast_concat, Option.some.injEq,
    List.getLastD_concat]
  split
  · rfl
  · rw [Path.normalize_concat (starts.plain.append plain), Path.normalize_concat plain]
    split
    · rename_i up
      -- A stem of two points leads up, but from a file that lies deeper not out of the directory.
      have deep : above ≠ [] := by
        rintro rfl
        exact within (split ▸ ⟨rfl, up⟩)
      rw [List.dropLast_append_of_ne_nil deep]
    · split
      · rfl
      · rw [List.append_assoc]

/-- The module of any other file is the directory above. -/
theorem modulePath_join_of_leadsOut (starts : base.IsBase) (below : source.IsBelow)
    (out : LeadsOut source.names) :
    modulePath directory (base.join source) = .ok base.names.dropLast := by
  obtain ⟨single, up⟩ := out
  obtain ⟨name, split⟩ := List.length_eq_one_iff.mp single
  replace up : (Path.splitSuffix name).1 = ".." := by simpa [split] using up
  have file : name ≠ packageFile := by
    rintro rfl
    revert up
    decide
  unfold modulePath
  rw [resolve_join starts below, split]
  simp only [List.getLast?_concat, List.dropLast_concat, if_neg file]
  rw [Path.normalize_concat starts.plain, if_pos up]

/-! ### Imports -/

/-- The way from the file of a module to the module of another file. -/
def wayBelow (output source : Path) : List String :=
  relativeNames output.names.dropLast (moduleBelow source.names)

/-- The module of a file as seen from another one, in a directory that is the root or not. -/
def specifierBelow (atRoot : Bool) (output source : Path) : Option String × Nat :=
  if LeadsOut source.names then (none, output.names.length + if atRoot then 0 else 1)
  else
    let way := wayBelow output source
    (sourceOf (downward way), way.length - (downward way).length + 1)

/-- The module of a file can be named, as seen from another one. -/
def IsImportable (output source : Path) : Prop :=
  LeadsOut source.names ∨ ∀ segment ∈ downward (wayBelow output source), isIdentifier segment

theorem downward_replicate (n : Nat) : downward (List.replicate n "..") = [] := by
  simpa using downward_replicate_append n List.not_mem_nil

/-- The module of a file as seen from another one does not depend on the directory that both lie in,
unless it is the root. -/
theorem relativeModule_join (starts : base.IsBase) (writes : output.IsBelow)
    (below : source.IsBelow) {specifier : Option String × Nat} :
    relativeModule directory (base.join output) (base.join source) = .ok specifier ↔
      IsImportable output source ∧
        specifier = specifierBelow base.names.isEmpty output source := by
  obtain ⟨module, level⟩ := specifier
  have way (target : List String) : segmentsTo directory (base.join output) target =
      downward (relativeNames (base.names ++ output.names.dropLast) target) := by
    rw [segmentsTo, resolve_parent_join starts writes]
  rw [relativeModule_eq_ok_iff, resolve_parent_join starts writes]
  simp only [way]
  by_cases out : LeadsOut source.names
  -- The way leads up alone: from the directory of the output to that of all files, and above.
  · have length : output.names.length = output.names.dropLast.length + 1 := by
      have positive := List.length_pos_iff.mpr writes.named
      rw [List.length_dropLast]
      omega
    rw [modulePath_join_of_leadsOut starts below out]
    simp only [Except.ok.injEq, exists_eq_left', relativeNames_dropLast, downward_replicate,
      List.not_mem_nil, false_implies, implies_true, if_true, List.length_replicate,
      List.length_nil, Nat.sub_zero, IsImportable, out, true_or, true_and, specifierBelow, length,
      Prod.mk.injEq, List.isEmpty_iff, Nat.add_right_comm _ 1]
  · rw [modulePath_join starts below out]
    simp only [Except.ok.injEq, exists_eq_left', relativeNames_append_left, IsImportable, out,
      false_or, specifierBelow, if_false, Prod.mk.injEq]
    rfl

/-- The import of a file, unless it exports nothing. -/
def importBelow? (atRoot : Bool) (output : Path) (reference : Path × Exports) : Option Stmt :=
  if importedExports reference.2 = [] then none
  else
    let (source, level) := specifierBelow atRoot output reference.1
    some (importOf source (importedExports reference.2) level)

/-- A signature with its files in a directory. -/
def Signature.below (base : Path) (signature : Signature) : Signature :=
  { signature with
    references := signature.references.map fun reference => (base.join reference.1, reference.2) }

variable {signature : Signature} {imports : List Stmt}

/-- The imports of a signature with its files in a directory. -/
theorem referenceImports_below (starts : base.IsBase) (writes : output.IsBelow)
    (below : ∀ reference ∈ signature.references, Path.IsBelow reference.1) :
    referenceImports directory (base.join output) (signature.below base) = .ok imports ↔
      (∀ reference ∈ signature.references,
        importedExports reference.2 = [] ∨ IsImportable output reference.1) ∧
      imports = signature.references.filterMap (importBelow? base.names.isEmpty output) := by
  have each (reference : Path × Exports) (member : reference ∈ signature.references)
      (result : Option Stmt) :
      referenceImport directory (base.join output) (base.join reference.1, reference.2) =
          .ok result ↔
        (importedExports reference.2 = [] ∨ IsImportable output reference.1) ∧
          result = importBelow? base.names.isEmpty output reference := by
    rw [referenceImport_eq_ok_iff]
    by_cases silent : importedExports reference.2 = []
    · simp [silent, importBelow?]
    · have named (source : Option String) (level : Nat) :
          relativeModule directory (base.join output) (base.join reference.1) =
              .ok (source, level) ↔
            IsImportable output reference.1 ∧
              (source, level) = specifierBelow base.names.isEmpty output reference.1 :=
        relativeModule_join starts writes (below reference member)
      simp only [silent, named, importBelow?, false_and, false_or, ne_eq, not_false_eq_true,
        true_and, if_false]
      constructor
      · rintro ⟨source, level, ⟨importable, same⟩, rfl⟩
        rw [← same]
        exact ⟨importable, rfl⟩
      · rintro ⟨importable, rfl⟩
        exact ⟨_, _, ⟨importable, rfl⟩, rfl⟩
  unfold referenceImports Signature.below
  rw [bind_eq_ok_iff, List.mapM_map]
  -- What each reference gives is known now; what is left puts the imports of all of them together.
  refine (exists_congr fun _ => and_congr_left fun _ => mapM_eq_ok_iff_of_forall each).trans ?_
  constructor
  · rintro ⟨_, ⟨importable, rfl⟩, same⟩
    rw [← Except.ok.inj same, List.filterMap_map]
    exact ⟨importable, rfl⟩
  · rintro ⟨importable, rfl⟩
    refine ⟨_, ⟨importable, rfl⟩, ?_⟩
    rw [List.filterMap_map]
    rfl

/-! ### Lines -/

/-- The line of the import of a file, unless it exports nothing. -/
def lineBelow? (atRoot : Bool) (output : Path) (reference : Path × Exports) : Option String :=
  if importedExports reference.2 = [] then none
  else
    let (source, level) := specifierBelow atRoot output reference.1
    some (importFromLine source ((importedExports reference.2).map fun name => { name }) level)

/-- The text of a module by the lines of its imports and those behind them. -/
def moduleText (options : Options) (context : Context) (lines behind : List String) : String :=
  joinLines ((ownModules options context).map ("import " ++ ·) ++ (lines ++ behind)) ++ "\n"

variable {options : Options} {context : Context} {declared : List Link} {atRoot : Bool}
  {references : List (Path × Exports)} {lines behind : List String} {text : String}

theorem bodyLines_append (stmts others : List Stmt) : bodyLines 0 (stmts ++ others) = do
    return (← bodyLines 0 stmts) ++ (← bodyLines 0 others) := by
  induction stmts with
  | nil =>
    rw [List.nil_append, bodyLines]
    exact (bind_pure (bodyLines 0 others)).symm
  | cons first stmts ih =>
    rw [List.cons_append, bodyLines, bodyLines, ih]
    simp only [bind_assoc, pure_bind, List.append_assoc]

theorem lineAt_zero (line : String) : lineAt 0 line = line := by
  simp [lineAt, indentation]

theorem bodyLines_ownImports (names : List String) :
    bodyLines 0 (names.map ownImport) = .ok (names.map ("import " ++ ·)) := by
  induction names with
  | nil => rfl
  | cons first names ih =>
    rw [List.map_cons, bodyLines, ih, ownImport, Stmt.lines, lineAt_zero]
    simp [commas, Alias.print, bind, Except.bind, pure, Except.pure]

theorem lineBelow?_eq {reference : Path × Exports} (exporting : importedExports reference.2 ≠ []) :
    lineBelow? atRoot output reference =
      some (importFromLine (specifierBelow atRoot output reference.1).1
        ((importedExports reference.2).map fun name => { name })
        (specifierBelow atRoot output reference.1).2) :=
  if_neg exporting

theorem bodyLines_imports : bodyLines 0 (references.filterMap (importBelow? atRoot output)) =
    .ok (references.filterMap (lineBelow? atRoot output)) := by
  induction references with
  | nil => rfl
  | cons first references ih =>
    by_cases silent : importedExports first.2 = []
    · have noImport : importBelow? atRoot output first = none := if_pos silent
      have noLine : lineBelow? atRoot output first = none := if_pos silent
      rw [List.filterMap_cons_none noImport, List.filterMap_cons_none noLine, ih]
    · have someImport : importBelow? atRoot output first =
          some (importOf (specifierBelow atRoot output first.1).1 (importedExports first.2)
            (specifierBelow atRoot output first.1).2) := if_neg silent
      rw [List.filterMap_cons_some someImport, List.filterMap_cons_some (lineBelow?_eq silent),
        bodyLines, importOf, Stmt.lines, ih, lineAt_zero]
      rfl

/-- A module whose imports are those below a directory is printed as its lines, if what stands
behind the imports can be printed. -/
theorem printModule_layout :
    printModule (layout signature options context declared
      (references.filterMap (importBelow? atRoot output))) = .ok text ↔
    ∃ behind, bodyLines 0 (exportsList options.functionName ::
        wrapperFunction (wrapperBody signature options declared) options ::
          closing options context) = .ok behind ∧
      text =
        moduleText options context (references.filterMap (lineBelow? atRoot output)) behind := by
  have split (imports : List Stmt) : layout signature options context declared imports =
      (ownModules options context).map ownImport ++ (imports ++
        exportsList options.functionName ::
          wrapperFunction (wrapperBody signature options declared) options ::
            closing options context) := by
    simp [layout, opening]
  have opens (imports : List Stmt) :
      documentedLines 0 (layout signature options context declared imports) =
        bodyLines 0 (layout signature options context declared imports) := documentedLines_eq rfl
  unfold printModule
  rw [opens, split, bodyLines_append, bodyLines_append, bodyLines_ownImports, bodyLines_imports,
    bind_eq_ok_iff]
  -- The imports are printed in any case, so that what stands behind them decides.
  generalize bodyLines 0 _ = printed
  cases printed with
  | error unprintable =>
    constructor
    · rintro ⟨_, same, -⟩
      cases same
    · rintro ⟨_, same, -⟩
      cases same
  | ok behind =>
    constructor
    · rintro ⟨_, ⟨⟩, ⟨⟩⟩
      exact ⟨behind, rfl, rfl⟩
    · rintro ⟨_, ⟨⟩, rfl⟩
      exact ⟨_, rfl, rfl⟩

/-! ### The step out of the directory -/

/-- A file whose module would be the directory above exports something. -/
def Signature.LeadsOut (signature : Signature) : Prop :=
  ∃ reference ∈ signature.references,
    importedExports reference.2 ≠ [] ∧ EntryPoint.LeadsOut reference.1.names

theorem length_importFromLine (source : Option String) (names : List Alias) (level : Nat) :
    (importFromLine source names level).length =
      level + (importFromLine source names 0).length := by
  simp only [importFromLine, String.length_append, String.length_ofList, List.length_replicate]
  omega

/-- Without files that lead out, the imports in the root are those elsewhere. -/
theorem lineBelow?_eq_of_not_leadsOut {reference : Path × Exports}
    (within : ¬(importedExports reference.2 ≠ [] ∧ LeadsOut reference.1.names))
    (atRoot other : Bool) :
    lineBelow? atRoot output reference = lineBelow? other output reference := by
  by_cases silent : importedExports reference.2 = []
  · simp [lineBelow?, silent]
  · have within : ¬LeadsOut reference.1.names := fun out => within ⟨silent, out⟩
    simp [lineBelow?, specifierBelow, within]

/-- How much of the text the import of a file takes. -/
def importSize (atRoot : Bool) (output : Path) (reference : Path × Exports) : Nat :=
  (closedLines (lineBelow? atRoot output reference).toList).length

theorem length_closedLines_filterMap :
    (closedLines (references.filterMap (lineBelow? atRoot output))).length =
      (references.map (importSize atRoot output)).sum := by
  induction references with
  | nil => rfl
  | cons first references ih =>
    rw [List.map_cons, List.sum_cons, ← ih, List.filterMap_cons, importSize]
    cases lineBelow? atRoot output first with
    | none => rw [Option.toList_none, closedLines, closedLines, List.flatMap_nil, List.length_nil,
        Nat.zero_add]
    | some line =>
      rw [Option.toList_some, closedLines, closedLines, List.flatMap_cons, List.flatMap_singleton,
        List.length_append]
      rfl

/-- A file that leads out takes one point more elsewhere than in the root. -/
theorem importSize_of_leadsOut {reference : Path × Exports}
    (exporting : importedExports reference.2 ≠ []) (leads : LeadsOut reference.1.names) :
    importSize false output reference = importSize true output reference + 1 := by
  have size (atRoot : Bool) : importSize atRoot output reference =
      (output.names.length + if atRoot then 0 else 1) + (importFromLine none
        ((importedExports reference.2).map fun name => { name }) 0).length + 1 := by
    rw [importSize, lineBelow?_eq exporting, specifierBelow, if_pos leads, Option.toList_some,
      closedLines, List.flatMap_singleton, List.length_append, String.length_toList,
      length_importFromLine]
    rfl
  rw [size, size]
  simp only [Bool.false_eq_true, if_false, if_true]
  omega

theorem length_lines_lt (out : ∃ reference ∈ references,
      importedExports reference.2 ≠ [] ∧ LeadsOut reference.1.names) :
    (closedLines (references.filterMap (lineBelow? true output))).length <
      (closedLines (references.filterMap (lineBelow? false output))).length := by
  rw [length_closedLines_filterMap, length_closedLines_filterMap]
  -- No import is longer in the root, and that of the file that leads out is shorter by a point.
  refine List.sum_lt_sum _ _ (fun reference _ => ?_) ?_
  · by_cases out : importedExports reference.2 ≠ [] ∧ LeadsOut reference.1.names
    · rw [importSize_of_leadsOut out.1 out.2]
      exact Nat.le_succ _
    · rw [importSize, lineBelow?_eq_of_not_leadsOut out true false]
      exact Nat.le_refl _
  · obtain ⟨reference, member, exporting, leads⟩ := out
    refine ⟨reference, member, ?_⟩
    rw [importSize_of_leadsOut exporting leads]
    exact Nat.lt_succ_self _

/-- How long a text is by its lines. -/
theorem length_moduleText : (moduleText options context lines behind).length =
    (closedLines ((ownModules options context).map ("import " ++ ·))).length +
      ((closedLines lines).length + (closedLines behind).length) := by
  have opens (others : List String) : ∃ rest,
      (ownModules options context).map ("import " ++ ·) ++ others = "import sys" :: rest := ⟨_, rfl⟩
  obtain ⟨rest, same⟩ := opens (lines ++ behind)
  have joined : (moduleText options context lines behind).toList = closedLines
      ((ownModules options context).map ("import " ++ ·) ++ (lines ++ behind)) := by
    unfold moduleText
    refine joinLines_eq (by simp [same]) fun others blank => ?_
    rw [same] at blank
    exact absurd (List.cons.inj blank).1 (by decide)
  rw [← String.length_toList, joined, closedLines, List.flatMap_append, List.flatMap_append,
    List.length_append, List.length_append]
  rfl

/-! ### Modules in directories -/

/-- What the rendering of a module needs, and what is printed behind its imports, whatever directory
the module and the files of its signature are in. -/
structure Renders (signature : Signature) (options : Options) (context : Context) (output : Path)
    (declared : List Link) (behind : List String) : Prop where
  accepted : signature.Accepted
  apart : UserNamesApart signature options
  declares : declarations signature = declared.map Link.toExpr
  importable : ∀ reference ∈ signature.references,
    importedExports reference.2 = [] ∨ IsImportable output reference.1
  printed : bodyLines 0 (exportsList options.functionName ::
    wrapperFunction (wrapperBody signature options declared) options ::
      closing options context) = .ok behind

theorem accepted_below_iff : (signature.below base).Accepted ↔ signature.Accepted :=
  ⟨fun ⟨a, b, c, d, e, f, g, h⟩ => ⟨a, b, c, d, e, f, g, h⟩,
    fun ⟨a, b, c, d, e, f, g, h⟩ => ⟨a, b, c, d, e, f, g, h⟩⟩

theorem userNamesApart_below_iff :
    UserNamesApart (signature.below base) options ↔ UserNamesApart signature options := by
  constructor
  · rintro ⟨name, exports⟩
    refine ⟨name, fun reference member => ?_⟩
    exact exports (base.join reference.1, reference.2) (List.mem_map.mpr ⟨_, member, rfl⟩)
  · rintro ⟨name, exports⟩
    refine ⟨name, fun reference member => ?_⟩
    obtain ⟨other, listed, rfl⟩ := List.mem_map.mp member
    exact exports other listed

/-- In the root and elsewhere, a module with a file that leads out has two texts. -/
theorem moduleText_ne (out : signature.LeadsOut) (root : base.names = [])
    (elsewhere : other.names ≠ []) (behind : List String) :
    moduleText options context
        (signature.references.filterMap (lineBelow? base.names.isEmpty output)) behind ≠
      moduleText options context
        (signature.references.filterMap (lineBelow? other.names.isEmpty output)) behind := by
  intro same
  have longer : (closedLines (signature.references.filterMap (lineBelow? true output))).length <
      (closedLines (signature.references.filterMap (lineBelow? false output))).length :=
    length_lines_lt out
  have lengths := congrArg String.length same
  rw [length_moduleText, length_moduleText, root, List.isEmpty_eq_false_iff.mpr elsewhere,
    List.isEmpty_nil] at lengths
  omega

/-- The text of a module for a file in a directory that holds the files of its signature as well. -/
def renderBelow (site : Site) (base output : Path) (signature : Signature) (options : Options)
    (context : Context) : Except Fault String :=
  renderSource { site with output := base.join output } (signature.below base) options context

section Directories

variable (imported : context.inlines = false) (starts : base.IsBase) (starts' : other.IsBase)
  (writes : output.IsBelow) (below : ∀ reference ∈ signature.references, Path.IsBelow reference.1)
  (site site' : Site)
include imported starts writes below

/-- The text of a module depends on its directory by the imports alone, and on those only by whether
the directory is the root. -/
theorem renderBelow_eq_ok_iff :
    renderBelow site base output signature options context = .ok text ↔
      ∃ declared behind, Renders signature options context output declared behind ∧
        text = moduleText options context
          (signature.references.filterMap (lineBelow? base.names.isEmpty output)) behind := by
  have printable (module : List Stmt) :
      orUnprintable (printModule module) = .ok text ↔ printModule module = .ok text := by
    cases printModule module with
    | error unprintable =>
      exact iff_of_false (fun same => by cases same) (fun same => by cases same)
    | ok printed =>
      exact ⟨fun same => congrArg _ (Except.ok.inj same), fun same =>
        congrArg _ (Except.ok.inj same)⟩
  unfold renderBelow renderSource
  rw [bind_eq_ok_iff]
  simp only [render_eq_ok_iff imported, accepted_below_iff, userNamesApart_below_iff, printable,
    referenceImports_below starts writes below]
  constructor
  · rintro ⟨_, ⟨accepted, apart, declared, _, declares, ⟨importable, rfl⟩, rfl⟩, printed⟩
    obtain ⟨behind, printed, same⟩ := printModule_layout.mp printed
    exact ⟨declared, behind, ⟨accepted, apart, declares, importable, printed⟩, same⟩
  · rintro ⟨declared, behind, ⟨accepted, apart, declares, importable, printed⟩, same⟩
    exact ⟨_, ⟨accepted, apart, declared, _, declares, ⟨importable, rfl⟩, rfl⟩,
      printModule_layout.mpr ⟨behind, printed, same⟩⟩

include starts'

/-- Whether a module can be rendered does not depend on its directory. -/
theorem exists_renderBelow_iff :
    (∃ text, renderBelow site base output signature options context = .ok text) ↔
      ∃ text, renderBelow site' other output signature options context = .ok text := by
  simp only [renderBelow_eq_ok_iff imported starts writes below,
    renderBelow_eq_ok_iff imported starts' writes below]
  constructor
  · rintro ⟨_, declared, behind, renders, -⟩
    exact ⟨_, declared, behind, renders, rfl⟩
  · rintro ⟨_, declared, behind, renders, -⟩
    exact ⟨_, declared, behind, renders, rfl⟩

/-- The text is the same in two directories exactly if both are the root or neither is, or no file
that exports something leads out, or there is no text at all. -/
theorem renderBelow_congr_iff :
    (∀ text, renderBelow site base output signature options context = .ok text ↔
      renderBelow site' other output signature options context = .ok text) ↔
    (base.names = [] ↔ other.names = []) ∨ ¬signature.LeadsOut ∨
      ∀ text, renderBelow site base output signature options context ≠ .ok text := by
  have here (text : String) :
      renderBelow site base output signature options context = .ok text ↔ _ :=
    renderBelow_eq_ok_iff imported starts writes below site
  have there (text : String) :
      renderBelow site' other output signature options context = .ok text ↔ _ :=
    renderBelow_eq_ok_iff imported starts' writes below site'
  have congr (same : signature.references.filterMap (lineBelow? base.names.isEmpty output) =
      signature.references.filterMap (lineBelow? other.names.isEmpty output)) (text : String) :
      renderBelow site base output signature options context = .ok text ↔
        renderBelow site' other output signature options context = .ok text := by
    rw [here, there, same]
  constructor
  · intro same
    by_contra! differ
    obtain ⟨roots, out, text, rendered⟩ := differ
    obtain ⟨declared, behind, renders, equal⟩ := (here text).mp rendered
    obtain ⟨declared', behind', renders', equal'⟩ := (there text).mp ((same text).mp rendered)
    obtain rfl := declared_unique renders.declares renders'.declares
    obtain rfl := Except.ok.inj (renders.printed.symm.trans renders'.printed)
    rcases roots with ⟨root, elsewhere⟩ | ⟨elsewhere, root⟩
    · exact moduleText_ne out root elsewhere behind (equal.symm.trans equal')
    · exact moduleText_ne out root elsewhere behind (equal'.symm.trans equal)
  · rintro (roots | within | none) text
    · have same : base.names.isEmpty = other.names.isEmpty :=
        Bool.eq_iff_iff.mpr (by simpa using roots)
      exact congr (by rw [same]) text
    · refine congr (List.filterMap_congr fun reference member => ?_) text
      exact lineBelow?_eq_of_not_leadsOut (fun out => within ⟨reference, member, out⟩) _ _
    · refine iff_of_false (none text) fun rendered => ?_
      obtain ⟨text, rendered⟩ := (exists_renderBelow_iff imported starts starts' writes below site
        site').mpr ⟨text, rendered⟩
      exact none text rendered

end Directories

/-- Whether a module can be rendered does not depend on the directory that it and the files of its
signature are in, nor on anything else about the place. Its text does so only where one directory is
the root and the other is not and the module of a file that exports something would be the directory
above. -/
theorem renderSource_relocated (imported : context.inlines = false) (starts : base.IsBase)
    (starts' : other.IsBase) (writes : output.IsBelow)
    (below : ∀ reference ∈ signature.references, Path.IsBelow reference.1) (site site' : Site) :
    ((∃ text, renderBelow site base output signature options context = .ok text) ↔
      ∃ text, renderBelow site' other output signature options context = .ok text) ∧
    ((∀ text, renderBelow site base output signature options context = .ok text ↔
        renderBelow site' other output signature options context = .ok text) ↔
      (base.names = [] ↔ other.names = []) ∨ ¬signature.LeadsOut ∨
        ∀ text, renderBelow site base output signature options context ≠ .ok text) :=
  ⟨exists_renderBelow_iff imported starts starts' writes below site site',
    renderBelow_congr_iff imported starts starts' writes below site site'⟩

/-! ### A file with points for a stem -/

/-- A function in a file that has two points for a stem, beside the file of the module. -/
def pointed : Signature :=
  { exporting "greet" with references := [(⟨.none, ["...py"]⟩, { named := ["greet"] })] }

theorem leadsOut_pointed : pointed.LeadsOut :=
  ⟨(⟨.none, ["...py"]⟩, { named := ["greet"] }), .head _, by decide, by decide⟩

theorem isBelow_pointed : ∀ reference ∈ pointed.references, Path.IsBelow reference.1 :=
  List.forall_mem_singleton.mpr ⟨rfl, ⟨by decide, by decide⟩, by decide⟩

theorem isBelow_besideFile : besideFile.output.IsBelow :=
  ⟨rfl, ⟨by decide, by decide⟩, by decide⟩

theorem isBase_root : Path.IsBase (.ofNames []) := ⟨rfl, ⟨by decide, by decide⟩⟩

theorem isBase_work : Path.IsBase (.ofNames ["work"]) := ⟨rfl, ⟨by decide, by decide⟩⟩

theorem exists_renderBelow_pointed : ∃ text,
    renderBelow besideFile (.ofNames ["work"]) besideFile.output pointed {} {} = .ok text := by
  have succeeds :
      (renderBelow besideFile (.ofNames ["work"]) besideFile.output pointed {} {}).isOk := by
    decide +kernel
  cases rendered : renderBelow besideFile (.ofNames ["work"]) besideFile.output pointed {} {} with
  | error fault => rw [rendered] at succeeds; cases succeeds
  | ok text => exact ⟨text, rfl⟩

theorem renderSource_relocated_work : Path.IsBase (.ofNames ["work"]) ∧
    Path.IsBase (.ofNames ["home", "ada"]) ∧ besideFile.output.IsBelow ∧
    (∀ reference ∈ pointed.references, Path.IsBelow reference.1) ∧
    ∃ text, renderBelow besideFile (.ofNames ["work"]) besideFile.output pointed {} {} = .ok text ∧
      renderBelow { besideFile with directory := [] } (.ofNames ["home", "ada"]) besideFile.output
        pointed {} {} = .ok text := by
  have home : Path.IsBase (.ofNames ["home", "ada"]) := ⟨rfl, ⟨by decide, by decide⟩⟩
  obtain ⟨text, rendered⟩ := exists_renderBelow_pointed
  have same :
      renderBelow besideFile (.ofNames ["work"]) besideFile.output pointed {} {} = .ok text ↔
      renderBelow { besideFile with directory := [] } (.ofNames ["home", "ada"]) besideFile.output
        pointed {} {} = .ok text :=
    (renderSource_relocated rfl isBase_work home isBelow_besideFile isBelow_pointed _ _).2.mpr
      (.inl (by decide)) text
  exact ⟨isBase_work, home, isBelow_besideFile, isBelow_pointed, text, rendered, same.mp rendered⟩

/-- In the root, such a file takes one point less than in any other directory. -/
theorem pointed_not_relocated :
    (∃ text, renderBelow besideFile (.ofNames []) besideFile.output pointed {} {} = .ok text) ∧
    (∃ text,
      renderBelow besideFile (.ofNames ["work"]) besideFile.output pointed {} {} = .ok text) ∧
    ¬∀ text, renderBelow besideFile (.ofNames []) besideFile.output pointed {} {} = .ok text ↔
      renderBelow besideFile (.ofNames ["work"]) besideFile.output pointed {} {} = .ok text := by
  obtain ⟨text, rendered⟩ := exists_renderBelow_pointed
  have here := (exists_renderBelow_iff rfl isBase_work isBase_root isBelow_besideFile
    isBelow_pointed besideFile besideFile).mp ⟨text, rendered⟩
  refine ⟨here, ⟨text, rendered⟩, fun same => ?_⟩
  rcases (renderBelow_congr_iff rfl isBase_work isBase_root isBelow_besideFile isBelow_pointed
    _ _).mp fun text => (same text).symm with roots | within | none
  · revert roots
    decide
  · exact within leadsOut_pointed
  · exact none text rendered

end EntryPoint
