/-
# Modules as seen from other files

A relative module leads from the directory of a file up by one directory less than
it has points, and down again by its names. The module of a file as seen from
another one leads to the place of that module, and no module with fewer points does.
So two files have the same module there exactly if their modules lie at the same
place.

That place is the directory of the file, or the file without its suffix. Where a name
without its suffix is one point or two, it is followed as a step: the module of such a
file is the directory that the file lies in, or the one above.

## Main definitions

* `moduleNames` - the place of the module of a file.
* `IsPointed` - the name of a file without its suffix is a step.
* `landing` - where a relative module leads to.
* `LeadsTo` - a relative module leads to a place with as few points as there can be.

## Main results

* `leadsTo_iff` - the module that leads from one place to another.
* `relativeModule_eq_ok_iff_leadsTo` - the module of a file as seen from another one.
* `relativeModule_leads` - it leads to the place of the module, unless the file is pointed.
-/

import EntryPoint.Proofs.Module.WellFormed
import EntryPoint.Proofs.Path
import Mathlib.Data.List.DropRight

namespace EntryPoint

open Syntax Text

variable {directory file start target : List String} {output source : Path}
  {specifier other : Option String × Nat}

/-! ### Places of modules -/

/-- The place of the module of a file: its directory if it stands for that, or else the file without
its suffix. -/
def moduleNames (file : List String) : List String :=
  if file.getLast? = some packageFile then file.dropLast
  else file.dropLast ++ [(Path.splitSuffix (file.getLastD "")).1]

/-- The name of a file without its suffix stays in place or leads up. -/
def IsPointed (file : List String) : Prop :=
  (Path.splitSuffix (file.getLastD "")).1 ∈ [".", ".."]

instance (file : List String) : Decidable (IsPointed file) :=
  inferInstanceAs (Decidable (_ ∈ _))

/-- A file has a module unless its path leads to the root. -/
theorem modulePath_eq_ok_iff : modulePath directory source = .ok target ↔
    source.resolve directory ≠ [] ∧
      target = Path.normalize (moduleNames (source.resolve directory)) := by
  have plain := source.isPlain_resolve directory
  unfold modulePath moduleNames
  generalize source.resolve directory = file at plain
  rcases List.eq_nil_or_concat file with rfl | ⟨above, name, rfl⟩
  · refine iff_of_false ?_ fun ⟨nonempty, _⟩ => nonempty rfl
    rintro ⟨⟩
  · rw [List.concat_eq_append] at plain ⊢
    have nonempty : above ++ [name] ≠ [] := by simp
    have followed : Path.normalize above = above := by
      simpa using Path.normalize_of_plain plain.dropLast
    simp only [List.getLast?_concat, List.dropLast_concat, List.getLastD_concat,
      Option.some.injEq, nonempty, ne_eq, not_false_eq_true, true_and]
    split
    · rw [followed, Except.ok.injEq, eq_comm]
    · rw [Except.ok.injEq, eq_comm]

/-- The place of a module is followed as it is, unless its last name is a step. -/
theorem normalize_moduleNames_iff (plain : Path.IsPlain file) :
    Path.normalize (moduleNames file) = moduleNames file ↔ ¬IsPointed file := by
  unfold moduleNames IsPointed
  split
  · rename_i package
    rw [List.getLastD_eq_getLast?, package]
    exact iff_of_true (Path.normalize_of_plain plain.dropLast) (by decide)
  · rw [Path.normalize_concat plain.dropLast]
    generalize (Path.splitSuffix (file.getLastD "")).1 = stem
    -- A step is not kept as a name: the place ends in front of it, or one name before that.
    split
    · rename_i up
      refine iff_of_false (fun same => ?_) fun proper => proper (by simp [up])
      have shorter := congrArg List.length same
      simp only [List.length_dropLast, List.length_append, List.length_singleton] at shorter
      omega
    · split
      · rename_i stay
        exact iff_of_false (by simp) fun proper => proper (by simp [stay])
      · exact iff_of_true rfl (by simp [*])

/-! ### Relative modules -/

/-- Where a relative module leads to: as many directories up as it has points but one, and down
again by its names. -/
def landing (start : List String) (specifier : Option String × Nat) : List String :=
  start.rdrop (specifier.2 - 1) ++ sourceParts specifier.1

/-- A relative module leads from a directory to a place by identifiers, and none with fewer points
leads there. -/
structure LeadsTo (start target : List String) (specifier : Option String × Nat) : Prop where
  positive : 1 ≤ specifier.2
  within : specifier.2 - 1 ≤ start.length
  lands : landing start specifier = target
  identifiers : ∀ part ∈ sourceParts specifier.1, part ≠ "" ∧ isIdentifier part
  least : ∀ other : Option String × Nat, 1 ≤ other.2 → other.2 - 1 ≤ start.length →
    landing start other = target → specifier.2 ≤ other.2

theorem ne_empty_of_isIdentifier {name : String} (identifier : isIdentifier name) : name ≠ "" := by
  rintro rfl
  cases identifier

/-- A module is the one of its names. -/
theorem sourceOf_sourceParts (module : Option String) : sourceOf (sourceParts module) = module := by
  cases module with
  | none => rfl
  | some name =>
    have joined : ".".intercalate ((partsOf '.' name.toList).map String.ofList) = name := by
      rw [intercalate_partsOf rfl, String.ofList_toList]
    have nonempty : sourceParts (some name) ≠ [] := by simp [sourceParts, partsOf]
    rw [sourceOf, if_neg (by simpa using nonempty), sourceParts, joined]

/-- What leads to a place goes up at least to where the two places part. -/
theorem length_rdrop_le_of_landing {common up down : List String}
    (part : ∀ name, up.head? = some name → down.head? ≠ some name)
    (lands : landing (common ++ up) specifier = common ++ down) :
    ((common ++ up).rdrop (specifier.2 - 1)).length ≤ common.length :=
  length_le_of_part part (List.take_prefix _ _) ⟨_, lands⟩

theorem length_lt_of_landing {common up down : List String}
    (part : ∀ name, up.head? = some name → down.head? ≠ some name)
    (positive : 1 ≤ specifier.2) (within : specifier.2 - 1 ≤ (common ++ up).length)
    (lands : landing (common ++ up) specifier = common ++ down) : up.length < specifier.2 := by
  have high := length_rdrop_le_of_landing part lands
  rw [List.rdrop, List.length_take, List.length_append] at high
  rw [List.length_append] at within
  omega

/-- One module leads from a place to another one: up to where they part, and down from there. -/
theorem leadsTo_iff {common up down : List String}
    (part : ∀ name, up.head? = some name → down.head? ≠ some name) :
    LeadsTo (common ++ up) (common ++ down) specifier ↔
      (∀ name ∈ down, isIdentifier name) ∧ specifier = (sourceOf down, up.length + 1) := by
  have climbed : (common ++ up).rdrop up.length = common := by simp [List.rdrop]
  have within : up.length + 1 - 1 ≤ (common ++ up).length := by simp
  have lands (identifiers : ∀ name ∈ down, isIdentifier name) :
      landing (common ++ up) (sourceOf down, up.length + 1) = common ++ down := by
    rw [landing, sourceParts_sourceOf identifiers, Nat.add_sub_cancel, climbed]
  constructor
  · obtain ⟨module, level⟩ := specifier
    rintro ⟨positive, inside, landed, identifiers, least⟩
    -- What goes up further comes down again through the names that lead on.
    have behind : down <:+ sourceParts module := by
      refine List.suffix_of_suffix_length_le (List.suffix_append common down) ⟨_, landed⟩ ?_
      have high := length_rdrop_le_of_landing part landed
      have length := congrArg List.length landed
      simp only [landing, List.length_append] at length high
      omega
    have named : ∀ name ∈ down, isIdentifier name :=
      fun name member => (identifiers name (behind.subset member)).2
    have lower : level ≤ up.length + 1 :=
      least (sourceOf down, up.length + 1) (Nat.succ_pos _) within (lands named)
    have upper : up.length < level := length_lt_of_landing part positive inside landed
    obtain rfl : level = up.length + 1 := by omega
    rw [landing, Nat.add_sub_cancel, climbed] at landed
    obtain rfl := List.append_cancel_left landed
    exact ⟨named, by rw [sourceOf_sourceParts]⟩
  · rintro ⟨identifiers, rfl⟩
    refine ⟨Nat.succ_pos _, within, lands identifiers, fun name member => ?_, ?_⟩
    · rw [sourceParts_sourceOf identifiers] at member
      exact ⟨ne_empty_of_isIdentifier (identifiers name member), identifiers name member⟩
    · exact fun other positive inside landed => length_lt_of_landing part positive inside landed

theorem LeadsTo.unique (leads : LeadsTo start target specifier)
    (leads' : LeadsTo start target other) : other = specifier := by
  obtain ⟨common, up, down, rfl, rfl, -, part⟩ := exists_relativeNames_eq start target
  rw [((leadsTo_iff part).mp leads).2, ((leadsTo_iff part).mp leads').2]

/-! ### Modules of files -/

/-- The module of a file as seen from another one is the module that leads to its place. -/
theorem relativeModule_eq_ok_iff_leadsTo : relativeModule directory output source = .ok specifier ↔
    source.resolve directory ≠ [] ∧ LeadsTo (output.parent.resolve directory)
      (Path.normalize (moduleNames (source.resolve directory))) specifier := by
  obtain ⟨module, level⟩ := specifier
  rw [relativeModule_eq_ok_iff]
  simp only [modulePath_eq_ok_iff, and_assoc, exists_and_left, exists_eq_left]
  refine and_congr_right fun _ => ?_
  unfold segmentsTo
  generalize output.parent.resolve directory = start
  have plain := Path.isPlain_normalize (moduleNames (source.resolve directory))
  generalize Path.normalize (moduleNames (source.resolve directory)) = target at plain
  obtain ⟨common, up, down, rfl, rfl, way, part⟩ := exists_relativeNames_eq start target
  -- No name of the place is a step, so the steps in front of the way are those that lead up.
  have upless : ".." ∉ down := fun member => plain.upless (List.mem_append_right _ member)
  rw [leadsTo_iff part, way, downward_replicate_append _ upless, List.length_append,
    List.length_replicate, Nat.add_sub_cancel, Prod.mk.injEq]
  rfl

/-- The module of a file as seen from another one leads to the place of that module with as few
points as there can be, unless the file is pointed. Then it leads to where the steps lead. So two
files have the same module exactly if their modules lead to the same place. -/
theorem relativeModule_leads (found : relativeModule directory output source = .ok specifier) :
    LeadsTo (output.parent.resolve directory)
      (Path.normalize (moduleNames (source.resolve directory))) specifier ∧
    (LeadsTo (output.parent.resolve directory) (moduleNames (source.resolve directory)) specifier ↔
      ¬IsPointed (source.resolve directory)) ∧
    ∀ source' other, relativeModule directory output source' = .ok other →
      (other = specifier ↔ Path.normalize (moduleNames (source'.resolve directory)) =
        Path.normalize (moduleNames (source.resolve directory))) ∧
      (¬IsPointed (source.resolve directory) → ¬IsPointed (source'.resolve directory) →
        (other = specifier ↔
          moduleNames (source'.resolve directory) = moduleNames (source.resolve directory))) := by
  obtain ⟨-, leads⟩ := relativeModule_eq_ok_iff_leadsTo.mp found
  have followed := normalize_moduleNames_iff (source.isPlain_resolve directory)
  refine ⟨leads, ?_, fun source' other found' => ?_⟩
  · rw [← followed]
    constructor
    · exact fun proper => leads.lands.symm.trans proper.lands
    · exact fun same => same ▸ leads
  · obtain ⟨-, leads'⟩ := relativeModule_eq_ok_iff_leadsTo.mp found'
    have followed' := normalize_moduleNames_iff (source'.isPlain_resolve directory)
    have same : other = specifier ↔ Path.normalize (moduleNames (source'.resolve directory)) =
        Path.normalize (moduleNames (source.resolve directory)) := by
      constructor
      · rintro rfl
        exact leads'.lands.symm.trans leads.lands
      · intro places
        exact leads.unique (places ▸ leads')
    refine ⟨same, fun proper proper' => ?_⟩
    rw [same, followed.mpr proper, followed'.mpr proper']

/-- From a file in `pkg/bin`, a file in `pkg/sub` is two points up and two names down. -/
theorem relativeModule_leads_greet :
    relativeModule ["work"] ⟨.none, ["pkg", "bin", "cli.py"]⟩
        ⟨.none, ["pkg", "sub", "greet.py"]⟩ = .ok (some "sub.greet", 2) ∧
    LeadsTo ["work", "pkg", "bin"] ["work", "pkg", "sub", "greet"] (some "sub.greet", 2) ∧
    ((none, 2) = ((some "sub.greet", 2) : Option String × Nat) ↔
      ["work", "pkg"] = ["work", "pkg", "sub", "greet"]) := by
  have found : relativeModule ["work"] ⟨.none, ["pkg", "bin", "cli.py"]⟩
      ⟨.none, ["pkg", "sub", "greet.py"]⟩ = .ok (some "sub.greet", 2) := by decide
  have above : relativeModule ["work"] ⟨.none, ["pkg", "bin", "cli.py"]⟩
      ⟨.none, ["pkg", "__init__.py"]⟩ = .ok (none, 2) := by decide
  obtain ⟨-, leads, among⟩ := relativeModule_leads found
  exact ⟨found, leads.mpr (by decide), (among _ _ above).2 (by decide) (by decide)⟩

/-- A file of points alone has the directory above as its module, like the file that stands for that
directory. -/
theorem pointed_leads_out :
    relativeModule ["work", "proj"] ⟨.none, ["cli.py"]⟩ ⟨.none, ["...py"]⟩ = .ok (none, 2) ∧
    ¬LeadsTo ["work", "proj"]
      (moduleNames (Path.resolve ["work", "proj"] ⟨.none, ["...py"]⟩)) (none, 2) ∧
    relativeModule ["work", "proj"] ⟨.none, ["cli.py"]⟩ ⟨.none, ["..", "__init__.py"]⟩ =
      .ok (none, 2) ∧
    moduleNames (Path.resolve ["work", "proj"] ⟨.none, ["..", "__init__.py"]⟩) ≠
      moduleNames (Path.resolve ["work", "proj"] ⟨.none, ["...py"]⟩) := by
  refine ⟨by decide, fun leads => ?_, by decide, by decide⟩
  have lands := leads.lands
  revert lands
  decide

end EntryPoint
