/-
# The references of a document

A document maps files to their exports. Its keys are texts that may spell one file in
several ways, and each becomes the path that it leads to. The references are set one
after another, so that a path keeps the exports of the last key that leads to it: what
an earlier key lists for the same file is lost, without a fault, unless the last one
lists it again.

## Main definitions

* `listedExports` - the exports that a value lists.
* `lastAt?` - the last entry that leads to a path.
* `Reflects` - references that hold what the last entries list.
* `KeepsExports` - every export of the document is in the list at its path.
* `RepeatsExports` - the last entries list again what entries before them do.

## Main results

* `Reflects.addReference`, `Reflects.foldlM` - what one entry preserves, and what all do.
* `keepsExports_iff` - when no export is lost.
-/

import EntryPoint.Proofs.Association
import EntryPoint.Proofs.Signature.Entries

namespace EntryPoint

open Document Syntax

variable {directory : Option Path} {document entries before : Pairs} {entry : Value × Value}
  {references : List (Path × Exports)} {path : Path} {file : String} {value : Value}
  {exports : Exports} {names : List String} {signature : Signature}

/-! ### What a value lists -/

/-- The names that a value spells: a text spells itself, and a list the texts in it. -/
def spelledNames : Value → List String
  | .text name => [name]
  | .list values => values.filterMap textOf?
  | _ => []

/-- The exports that a value lists; what is no mapping lists none. -/
def listedExports : Value → Exports
  | .mapping pairs =>
    { default := spelledNames (Value.lookupD "default" pairs)
      named := spelledNames (Value.lookupD "named" pairs) }
  | _ => {}

/-- A list that can be read as texts holds no other values. -/
theorem filterMap_textOf? {values : List Value} (read : values.mapM textOf? = some names) :
    values.filterMap textOf? = names := by
  induction values generalizing names with
  | nil => exact Option.some.inj read
  | cons first rest ih =>
    rw [List.mapM_cons] at read
    obtain ⟨name, here, behind⟩ := Option.bind_eq_some_iff.mp read
    obtain ⟨others, further, same⟩ := Option.bind_eq_some_iff.mp behind
    obtain rfl := Option.some.inj same
    rw [List.filterMap_cons_some here, ih further]

theorem exportedNames_eq_ok (found : exportedNames file value = .ok names) :
    names = spelledNames value := by
  cases value with
  | null => exact (Except.ok.inj found).symm
  | text name => exact (Except.ok.inj found).symm
  | list values =>
    rw [exportedNames] at found
    split at found
    · rename_i read
      obtain rfl := Except.ok.inj found
      exact (filterMap_textOf? read).symm
    · cases found
  | _ => cases found

theorem exportsOf_eq_ok (found : exportsOf file value = .ok exports) :
    exports = listedExports value := by
  unfold exportsOf at found
  cases value with
  | mapping pairs =>
    dsimp only at found
    split at found
    · rename_i absent
      -- Of all mappings, only the empty one does not count as present, and it lists nothing.
      obtain rfl : pairs = [] := by simpa [Value.isTruthy] using absent
      exact (Except.ok.inj found).symm
    · obtain ⟨default, first, found⟩ := bind_eq_ok_iff.mp found
      obtain ⟨named, second, found⟩ := bind_eq_ok_iff.mp found
      obtain rfl := Except.ok.inj found
      rw [listedExports, exportedNames_eq_ok first, exportedNames_eq_ok second]
  | _ =>
    dsimp only at found
    split at found
    · exact (Except.ok.inj found).symm
    · cases found

/-! ### The last entry of a path -/

/-- The path that a key leads to; only a text leads to one. -/
def keyPath? (directory : Option Path) : Value → Option Path
  | .text file => some (referencePath directory file)
  | _ => none

/-- The last entry that leads to a path. -/
def lastAt? (directory : Option Path) (path : Path) (entries : Pairs) :
    Option (Value × Value) :=
  entries.findRev? fun entry => keyPath? directory entry.1 = some path

theorem lastAt?_concat :
    lastAt? directory path (entries ++ [entry]) =
      if keyPath? directory entry.1 = some path then some entry
      else lastAt? directory path entries := by
  simp only [lastAt?, List.findRev?_eq_find?_reverse, List.reverse_append, List.reverse_singleton,
    List.singleton_append, List.find?_cons]
  split <;> simp_all

theorem mem_of_lastAt?_eq_some (found : lastAt? directory path entries = some entry) :
    entry ∈ entries ∧ keyPath? directory entry.1 = some path := by
  rw [lastAt?, List.findRev?_eq_find?_reverse] at found
  have member := List.mem_of_find?_eq_some found
  have leads := List.find?_some found
  exact ⟨List.mem_reverse.mp member, by simpa using leads⟩

theorem exists_lastAt? (member : entry ∈ entries)
    (leads : keyPath? directory entry.1 = some path) :
    ∃ last, lastAt? directory path entries = some last := by
  rw [← Option.isSome_iff_exists, lastAt?, List.findRev?_eq_find?_reverse, List.find?_isSome]
  exact ⟨entry, List.mem_reverse.mpr member, by simpa using leads⟩

/-! ### Setting the references -/

/-- References hold what the last entries list: each path once, and nothing else. -/
structure Reflects (directory : Option Path) (entries : Pairs)
    (references : List (Path × Exports)) : Prop where
  texts : ∀ entry ∈ entries, ∃ file, entry.1 = .text file
  nodup : (references.map Prod.fst).Nodup
  lookup : ∀ path, references.lookup path =
    (lastAt? directory path entries).map fun entry => listedExports entry.2

theorem Reflects.nil : Reflects directory [] [] where
  texts := List.forall_mem_nil _
  nodup := List.nodup_nil
  lookup _ := rfl

theorem addReference_eq_ok_iff {further : List (Path × Exports)} :
    addReference directory references entry = .ok further ↔ ∃ file exports,
      entry.1 = .text file ∧ exportsOf file entry.2 = .ok exports ∧
        further = Association.insert references (referencePath directory file) exports := by
  obtain ⟨key, value⟩ := entry
  cases key with
  | text file =>
    rw [addReference, bind_eq_ok_iff]
    constructor
    · rintro ⟨exports, listed, same⟩
      exact ⟨file, exports, rfl, listed, (Except.ok.inj same).symm⟩
    · rintro ⟨_, exports, ⟨⟩, listed, rfl⟩
      exact ⟨exports, listed, rfl⟩
  | _ =>
    refine iff_of_false (fun added => by cases added) ?_
    rintro ⟨_, _, ⟨⟩, -⟩

/-- A file is given by text, with exports that are accepted. -/
def IsReference (entry : Value × Value) : Prop :=
  ∃ file exports, entry.1 = .text file ∧ exportsOf file entry.2 = .ok exports

/-- References are set exactly if all entries give one. -/
theorem exists_foldlM_addReference_iff :
    (∃ final, entries.foldlM (addReference directory) references = .ok final) ↔
      ∀ entry ∈ entries, IsReference entry := by
  induction entries generalizing references with
  | nil => exact iff_of_true ⟨references, rfl⟩ (List.forall_mem_nil _)
  | cons first rest ih =>
    simp only [List.foldlM_cons, bind_eq_ok_iff, List.forall_mem_cons]
    constructor
    · rintro ⟨final, next, added, behind⟩
      obtain ⟨file, exports, key, listed, -⟩ := addReference_eq_ok_iff.mp added
      exact ⟨⟨file, exports, key, listed⟩, ih.mp ⟨final, behind⟩⟩
    · rintro ⟨⟨file, exports, key, listed⟩, others⟩
      have added : addReference directory references first = .ok _ :=
        addReference_eq_ok_iff.mpr ⟨file, exports, key, listed, rfl⟩
      obtain ⟨final, behind⟩ := ih.mpr others
      exact ⟨final, _, added, behind⟩

/-- One more entry takes the place of those before it that lead to the same path. -/
theorem Reflects.addReference {further : List (Path × Exports)}
    (reflects : Reflects directory entries references)
    (added : addReference directory references entry = .ok further) :
    Reflects directory (entries ++ [entry]) further := by
  obtain ⟨file, exports, key, listed, rfl⟩ := addReference_eq_ok_iff.mp added
  constructor
  · rw [List.forall_mem_append, List.forall_mem_singleton]
    exact ⟨reflects.texts, file, key⟩
  · exact Association.nodup_insert reflects.nodup
  · intro path
    rw [Association.lookup_insert, lastAt?_concat, reflects.lookup, key, keyPath?]
    -- Only the path that the new key leads to changes what it has.
    by_cases here : path = referencePath directory file
    · rw [if_pos here, if_pos (congrArg some here.symm), exportsOf_eq_ok listed]
      rfl
    · rw [if_neg here, if_neg fun same => here (Option.some.inj same).symm]

/-- A run over further entries goes on to hold what the last of all entries list. -/
theorem Reflects.foldlM {final : List (Path × Exports)}
    (reflects : Reflects directory before references)
    (run : entries.foldlM (EntryPoint.addReference directory) references = .ok final) :
    Reflects directory (before ++ entries) final := by
  -- The entries that are done grow at their end, so that the last one of a path may change.
  induction entries generalizing before references with
  | nil =>
    obtain rfl := Except.ok.inj run
    rwa [List.append_nil]
  | cons first rest ih =>
    rw [List.foldlM_cons] at run
    obtain ⟨next, added, behind⟩ := bind_eq_ok_iff.mp run
    rw [List.append_cons]
    exact ih (reflects.addReference added) behind

/-! ### The references of a document -/

/-- The entries of a value; what is no mapping has none. -/
def entriesIn : Value → Pairs
  | .mapping pairs => pairs
  | _ => []

/-- The entries under the references of a document. -/
def referenceEntries (document : Pairs) : Pairs :=
  entriesIn (Value.lookupD "ref" document)

theorem reflects_of_extractReferences
    (found : extractReferences directory value = .ok references) :
    Reflects directory (entriesIn value) references := by
  unfold extractReferences at found
  cases value with
  | mapping pairs =>
    dsimp only at found
    split at found
    · rename_i absent
      obtain rfl : pairs = [] := by simpa [Value.isTruthy] using absent
      rw [← Except.ok.inj found]
      exact Reflects.nil
    · exact Reflects.nil.foldlM found
  | _ =>
    dsimp only at found
    split at found
    · rw [← Except.ok.inj found]
      exact Reflects.nil
    · cases found

/-- The references of a signature hold what the last entries of its document list. -/
theorem reflects_of_extract (extracted : extract document directory = .ok signature) :
    Reflects directory (referenceEntries document) signature.references :=
  reflects_of_extractReferences (extract_eq_ok_iff.mp extracted).2.2.2.2

/-! ### Exports that are kept -/

/-- Every export of one file is among those of another, in the same way. -/
structure Exports.Covers (exports other : Exports) : Prop where
  default : other.default ⊆ exports.default
  named : other.named ⊆ exports.named

instance (exports other : Exports) : Decidable (exports.Covers other) :=
  decidable_of_iff (other.default ⊆ exports.default ∧ other.named ⊆ exports.named)
    ⟨fun both => ⟨both.1, both.2⟩, fun covers => ⟨covers.default, covers.named⟩⟩

theorem Exports.Covers.refl (exports : Exports) : exports.Covers exports :=
  ⟨List.Subset.refl _, List.Subset.refl _⟩

/-- Every export that an entry lists is in the list at the path that its key leads to. -/
def KeepsExports (directory : Option Path) (entries : Pairs)
    (references : List (Path × Exports)) : Prop :=
  ∀ entry ∈ entries, ∃ file exports, entry.1 = .text file ∧
    references.lookup (referencePath directory file) = some exports ∧
      exports.Covers (listedExports entry.2)

/-- The last entry of each path lists again what all entries list that lead to it. -/
def RepeatsExports (directory : Option Path) (entries : Pairs) : Prop :=
  ∀ entry ∈ entries, ∀ path ∈ keyPath? directory entry.1,
    ∀ last ∈ lastAt? directory path entries,
      (listedExports last.2).Covers (listedExports entry.2)

instance : Decidable (RepeatsExports directory entries) :=
  inferInstanceAs (Decidable (∀ entry ∈ entries, ∀ path ∈ keyPath? directory entry.1,
    ∀ last ∈ lastAt? directory path entries,
      (listedExports last.2).Covers (listedExports entry.2)))

theorem Reflects.keepsExports_iff_repeatsExports
    (reflects : Reflects directory entries references) :
    KeepsExports directory entries references ↔ RepeatsExports directory entries := by
  constructor
  · intro keeps entry member path leads last isLast
    obtain ⟨file, exports, key, found, covers⟩ := keeps entry member
    obtain rfl : referencePath directory file = path := by simpa [key, keyPath?] using leads
    rw [reflects.lookup, isLast] at found
    obtain rfl := Option.some.inj found
    exact covers
  · intro repeats entry member
    obtain ⟨file, key⟩ := reflects.texts entry member
    have leads : keyPath? directory entry.1 = some (referencePath directory file) := by
      rw [key, keyPath?]
    obtain ⟨last, isLast⟩ := exists_lastAt? member leads
    refine ⟨file, listedExports last.2, key, ?_, repeats entry member _ leads last isLast⟩
    rw [reflects.lookup, isLast]
    rfl

/-- Where no two keys lead to one path, each entry is the last one. -/
theorem repeatsExports_of_nodup
    (distinct : (entries.map fun entry => keyPath? directory entry.1).Nodup) :
    RepeatsExports directory entries := by
  intro entry member path leads last isLast
  obtain ⟨among, same⟩ := mem_of_lastAt?_eq_some isLast
  -- The last entry and this one lead to one path, as no two entries do.
  obtain rfl : last = entry :=
    List.inj_on_of_nodup_map distinct among member (same.trans leads.symm)
  exact Exports.Covers.refl _

/-- In every signature that is read from a document, each path stands once, with the exports that
the last entry for it lists. No export is lost exactly if the last entry of each path lists all of
them again, and thus in particular where no two keys lead to one path. -/
theorem keepsExports_iff (extracted : extract document directory = .ok signature) :
    (signature.references.map Prod.fst).Nodup ∧
    (∀ path, signature.references.lookup path =
      (lastAt? directory path (referenceEntries document)).map fun entry =>
        listedExports entry.2) ∧
    (KeepsExports directory (referenceEntries document) signature.references ↔
      RepeatsExports directory (referenceEntries document)) ∧
    (((referenceEntries document).map fun entry => keyPath? directory entry.1).Nodup →
      KeepsExports directory (referenceEntries document) signature.references) := by
  have reflects := reflects_of_extract extracted
  have keeps := reflects.keepsExports_iff_repeatsExports
  exact ⟨reflects.nodup, reflects.lookup, keeps,
    fun distinct => keeps.mpr (repeatsExports_of_nodup distinct)⟩

/-- A document that gives exports to two spellings of one file. -/
def spelledTwice (earlier later : List String) : Pairs :=
  [(.text "name", .text "greet"),
    (.text "ref", .mapping
      [(.text "greet.py", .mapping [(.text "named", .list (earlier.map .text))]),
        (.text "./greet.py", .mapping [(.text "named", .list (later.map .text))])])]

theorem spelledTwice_keepsExports :
    ∃ signature,
      extract (spelledTwice ["greet"] ["helper", "greet"]) (some (.ofString "/work")) =
        .ok signature ∧
      KeepsExports (some (.ofString "/work"))
        (referenceEntries (spelledTwice ["greet"] ["helper", "greet"])) signature.references ∧
      signature.references.lookup (.ofString "/work/greet.py") =
        some { named := ["helper", "greet"] } := by
  obtain ⟨signature, extracted⟩ : ∃ signature,
      extract (spelledTwice ["greet"] ["helper", "greet"]) (some (.ofString "/work")) =
        .ok signature := ⟨_, rfl⟩
  obtain ⟨-, lookup, keeps, -⟩ := keepsExports_iff extracted
  refine ⟨signature, extracted, keeps.mpr (by decide), ?_⟩
  rw [lookup]
  rfl

/-- The document is accepted, its keys differ, and the export that the earlier key lists is lost. -/
theorem spelledTwice_loses_export :
    ∃ signature,
      extract (spelledTwice ["greet"] ["helper"]) none = .ok signature ∧
      ((referenceEntries (spelledTwice ["greet"] ["helper"])).map Prod.fst =
        [.text "greet.py", .text "./greet.py"]) ∧
      referencePath none "greet.py" = referencePath none "./greet.py" ∧
      signature.references.lookup (referencePath none "greet.py") =
        some { default := [], named := ["helper"] } :=
  ⟨_, rfl, rfl, rfl, rfl⟩

end EntryPoint
