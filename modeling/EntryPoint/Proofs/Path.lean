/-
# Ways between places

Names that lead only downwards are followed as they are, whatever lies above. So
the way from one place to another does not depend on the directory that both lie
in, and a way out of that directory is by one step longer than to the directory
itself, unless it is the root.

## Main definitions

* `Path.IsPlain` - all names of a path lead downwards.
* `Path.IsPart` - a text is a name of a path, and leads downwards.
* `Path.destination` - the place that a path leads to by its names alone.

## Main results

* `Path.normalize_of_plain`, `Path.normalize_concat` - names that are followed.
* `Path.isPart_of_mem_resolve` - what a path is resolved to.
* `Path.isPlain_resolve` - a path is resolved to names that lead downwards.
* `Path.ofString_text` - a path that is read from its text.
* `relativeNames_append_left` - the way between two places in a directory.
* `relativeNames_dropLast` - the way out of the directory.
* `exists_relativeNames_eq` - a way leads up to where two places part, and down from there.
-/

import EntryPoint.Path
import EntryPoint.Proofs.Text.Split
import Mathlib.Data.List.Basic

namespace EntryPoint

namespace Path

/-- All names lead downwards. -/
structure IsPlain (names : List String) : Prop where
  stayless : "." ∉ names
  upless : ".." ∉ names

variable {names above : List String} {name : String}

theorem IsPlain.append {base : List String} (plain : IsPlain base) (further : IsPlain names) :
    IsPlain (base ++ names) where
  stayless member := (List.mem_append.mp member).elim plain.stayless further.stayless
  upless member := (List.mem_append.mp member).elim plain.upless further.upless

theorem IsPlain.dropLast (plain : IsPlain names) : IsPlain names.dropLast where
  stayless member := plain.stayless (names.dropLast_subset member)
  upless member := plain.upless (names.dropLast_subset member)

theorem foldl_follow_of_plain (plain : IsPlain names) :
    names.foldl follow above = names.reverse ++ above := by
  induction names generalizing above with
  | nil => rfl
  | cons first names ih =>
    obtain ⟨stayless, upless⟩ := plain
    rw [List.mem_cons, not_or] at stayless upless
    rw [List.foldl_cons, ih ⟨stayless.2, upless.2⟩, follow, if_neg (Ne.symm upless.1),
      if_neg (Ne.symm stayless.1), List.reverse_cons, List.append_assoc, List.singleton_append]

/-- Names that lead downwards are followed as they are. -/
theorem normalize_of_plain (plain : IsPlain names) : normalize names = names := by
  rw [normalize, foldl_follow_of_plain plain, List.append_nil, List.reverse_reverse]

/-- One more name leads up, stays in place or leads on. -/
theorem normalize_concat (plain : IsPlain names) (name : String) : normalize (names ++ [name]) =
    if name = ".." then names.dropLast else if name = "." then names else names ++ [name] := by
  rw [normalize, List.foldl_append, foldl_follow_of_plain plain, List.append_nil, List.foldl_cons,
    List.foldl_nil, follow]
  split
  · rw [List.drop_one, List.tail_reverse, List.reverse_reverse]
  · split
    · rw [List.reverse_reverse]
    · rw [List.reverse_cons, List.reverse_reverse]

theorem join_of_relative {base path : Path} (relative : path.isAbsolute = false) :
    base.join path = ⟨base.root, base.names ++ path.names⟩ := by
  simp [join, relative]

/-- A path from a root leads to the same place from every directory. -/
theorem resolve_of_isAbsolute {path : Path} (absolute : path.isAbsolute)
    (plain : IsPlain path.names) (directory : List String) :
    path.resolve directory = path.names := by
  rw [resolve, if_pos absolute, normalize_of_plain plain]

/-! ### Parts -/

/-- Whether a text is one part of a path, and not one that stays in place or goes up. -/
structure IsPart (name : String) : Prop where
  slashless : '/' ∉ name.toList
  proper : name ≠ "" ∧ name ≠ "." ∧ name ≠ ".."

theorem isPlain_of_parts (parts : ∀ name ∈ names, IsPart name) : IsPlain names where
  stayless member := (parts _ member).proper.2.1 rfl
  upless member := (parts _ member).proper.2.2 rfl

theorem isName_iff {part : List Char} : isName part ↔ part ≠ [] ∧ part ≠ ['.'] := by
  simp [isName]

namespace IsPart

theorem isName (part : IsPart name) : isName name.toList := by
  rw [isName_iff]
  exact ⟨fun none => part.proper.1 (String.toList_eq_nil_iff.mp none),
    fun here => part.proper.2.1 (String.toList_injective (here.trans (by decide)))⟩

theorem exists_toList_eq (part : IsPart name) : ∃ c rest, name.toList = c :: rest ∧ c ≠ '/' := by
  cases opened : name.toList with
  | nil => exact absurd (String.toList_eq_nil_iff.mp opened) part.proper.1
  | cons c rest =>
    refine ⟨c, rest, rfl, ?_⟩
    rintro rfl
    exact part.slashless (opened ▸ List.mem_cons_self)

theorem ofString_eq (part : IsPart name) : ofString name = ⟨.none, [name]⟩ := by
  have root : rootOf name.toList = .none := by
    obtain ⟨c, rest, opened, other⟩ := part.exists_toList_eq
    simp [rootOf, opened, other]
  rw [ofString, root, Text.partsOf_of_notMem part.slashless]
  simp [part.isName]

theorem child_eq (part : IsPart name) (path : Path) :
    path.child name = ⟨path.root, path.names ++ [name]⟩ := by
  rw [child, part.ofString_eq]
  rfl

end IsPart

/-- The names of a path have no slashes, are not empty and do not stay in place. -/
theorem of_mem_names_ofString {text : String} (member : name ∈ (ofString text).names) :
    '/' ∉ name.toList ∧ name ≠ "" ∧ name ≠ "." := by
  obtain ⟨part, listed, rfl⟩ := List.mem_map.mp member
  obtain ⟨listed, named⟩ := List.mem_filter.mp listed
  rw [isName_iff] at named
  refine ⟨?_, ?_, ?_⟩
  · rw [String.toList_ofList]
    exact Text.notMem_of_mem_partsOf listed
  · rintro empty
    exact named.1 (by simpa using congrArg String.toList empty)
  · rintro here
    exact named.2 (by simpa using congrArg String.toList here)

/-- What names lead to has none that stays in place or leads up. -/
theorem of_mem_foldl_follow (member : name ∈ names.foldl follow above) :
    name ∈ above ∨ name ∈ names ∧ name ≠ "." ∧ name ≠ ".." := by
  induction names generalizing above with
  | nil => exact .inl member
  | cons first names ih =>
    -- A name is put on what stands above, or takes the last one off, or leaves it.
    rcases ih member with member | ⟨member, proper⟩
    · rw [follow] at member
      split at member
      · exact .inl (List.mem_of_mem_drop member)
      · split at member
        · exact .inl member
        · rcases List.mem_cons.mp member with rfl | member
          · exact .inr ⟨.head _, ‹_›, ‹_›⟩
          · exact .inl member
    · exact .inr ⟨.tail _ member, proper⟩

theorem isPlain_normalize (names : List String) : IsPlain (normalize names) := by
  have proper {name : String} (member : name ∈ normalize names) : name ≠ "." ∧ name ≠ ".." := by
    rw [normalize, List.mem_reverse] at member
    rcases of_mem_foldl_follow member with member | ⟨-, proper⟩
    · cases member
    · exact proper
  exact ⟨fun member => (proper member).1 rfl, fun member => (proper member).2 rfl⟩

theorem isPlain_resolve (path : Path) (directory : List String) :
    IsPlain (path.resolve directory) :=
  isPlain_normalize _

/-- Whatever a path spells, it leads to a place by parts. -/
theorem isPart_of_mem_resolve {directory : List String} {text : String}
    (parts : ∀ name ∈ directory, IsPart name)
    (member : name ∈ (ofString text).resolve directory) : IsPart name := by
  rw [resolve, normalize, List.mem_reverse] at member
  rcases of_mem_foldl_follow member with member | ⟨member, stayless, upless⟩
  · cases member
  · have spelled (member : name ∈ (ofString text).names) : IsPart name :=
      have ⟨slashless, nonempty, _⟩ := of_mem_names_ofString member
      ⟨slashless, nonempty, stayless, upless⟩
    split at member
    · exact spelled member
    · exact (List.mem_append.mp member).elim (parts name) spelled

theorem slash_notMem_name (parts : ∀ name ∈ names, IsPart name) :
    '/' ∉ (ofNames names).name.toList := by
  change '/' ∉ (names.getLastD "").toList
  rcases List.eq_nil_or_concat names with rfl | ⟨front, last, rfl⟩
  · decide
  · rw [List.concat_eq_append, List.getLastD_concat]
    exact (parts last (by simp)).slashless

/-- A path from the root is read from its text. -/
theorem ofString_text (parts : ∀ name ∈ names, IsPart name) :
    ofString (ofNames names).text = ofNames names := by
  have text : (ofNames names).text.toList = '/' :: ("/".intercalate names).toList := by
    simp [Path.text, ofNames, Root.text]
  cases names with
  | nil => decide
  | cons first others =>
    have root : rootOf (ofNames (first :: others)).text.toList = .single := by
      obtain ⟨c, rest, opened, other⟩ := (parts first (.head _)).exists_toList_eq
      rw [text, Text.toList_intercalate_cons, opened]
      simp [rootOf, other]
    -- The slash in front is the root, and leaves an empty part that is no name.
    have parted : Text.partsOf '/' (ofNames (first :: others)).text.toList =
        [] :: (first :: others).map String.toList := by
      rw [text, Text.partsOf_cons_separator, Text.partsOf_intercalate (by decide) (by simp)
        fun name member => (parts name member).slashless]
    have named : ((first :: others).map String.toList).filter Path.isName =
        (first :: others).map String.toList := by
      refine List.filter_eq_self.mpr fun _ spelled => ?_
      obtain ⟨name, member, rfl⟩ := List.mem_map.mp spelled
      exact (parts name member).isName
    rw [ofString, root, parted, List.filter_cons_of_neg (by decide), named, List.map_map]
    simp [ofNames, Function.comp_def]

/-! ### Places -/

/-- The place that one more name leads to. -/
def enter (place : List String) (name : String) : List String :=
  if name = ".." then place.dropLast else place ++ [name]

/-- The place that a path leads to from a directory, as long as it goes through directories
alone. -/
def destination (directory : List String) (path : Path) : List String :=
  path.names.foldl enter (if path.isAbsolute then [] else directory)

/-- A name in a directory leads to a place of that name in it. -/
theorem IsPart.destination_child (part : IsPart name) (directory : List String) (path : Path) :
    (path.child name).destination directory = path.destination directory ++ [name] := by
  rw [part.child_eq]
  change (path.names ++ [name]).foldl enter _ = _
  rw [List.foldl_append, List.foldl_cons, List.foldl_nil, enter, if_neg part.proper.2.2]
  rfl

/-- A name with a long ending leads to a place whose name ends like this, whatever stands in front
of the ending. -/
theorem exists_destination_child_append {ending : String} (slashless : '/' ∉ ending.toList)
    (long : 2 < ending.toList.length) (opening : String) (directory : List String) (path : Path) :
    ∃ parent last, (path.child (opening ++ ending)).destination directory =
      parent ++ [last ++ ending] := by
  -- Without a slash the ending belongs to the last part, whatever the text opens with.
  obtain ⟨front, last, parts⟩ := Text.exists_partsOf_append slashless opening.toList
  have longer : 2 < (last ++ ending.toList).length := by
    rw [List.length_append]
    omega
  have named : Path.isName (last ++ ending.toList) := by
    rw [isName_iff]
    constructor <;> intro same <;> rw [same] at longer <;> revert longer <;> decide
  have upless : String.ofList last ++ ending ≠ ".." := by
    intro same
    have letters : last ++ ending.toList = ['.', '.'] := by simpa using congrArg String.toList same
    rw [letters] at longer
    revert longer
    decide
  obtain ⟨names, spelled⟩ : ∃ names, (ofString (opening ++ ending)).names =
      names ++ [String.ofList last ++ ending] := by
    refine ⟨(front.filter Path.isName).map String.ofList, ?_⟩
    rw [ofString, String.toList_append, parts, List.filter_append, List.filter_cons_of_pos named]
    simp
  have enters (start names : List String) :
      (names ++ [String.ofList last ++ ending]).foldl enter start =
        names.foldl enter start ++ [String.ofList last ++ ending] := by
    rw [List.foldl_append, List.foldl_cons, List.foldl_nil, enter, if_neg upless]
  unfold child join destination
  split
  · rw [spelled, enters]
    exact ⟨_, _, rfl⟩
  · dsimp only
    rw [spelled, ← List.append_assoc, enters]
    exact ⟨_, _, rfl⟩

/-- A path from the root that leads downwards leads to the place of its names. -/
theorem destination_ofNames (plain : IsPlain names) (directory : List String) :
    (ofNames names).destination directory = names := by
  have entered (place : List String) : names.foldl enter place = place ++ names := by
    induction names generalizing place with
    | nil => simp
    | cons first names ih =>
      obtain ⟨stayless, upless⟩ := plain
      rw [List.mem_cons, not_or] at stayless upless
      rw [List.foldl_cons, ih ⟨stayless.2, upless.2⟩, enter, if_neg (Ne.symm upless.1),
        List.append_assoc, List.singleton_append]
  exact entered []

end Path

/-! ### Ways -/

variable {base start target : List String}

/-- The way between two places in a directory does not depend on the directory. -/
theorem relativeNames_append_left :
    relativeNames (base ++ start) (base ++ target) = relativeNames start target := by
  induction base with
  | nil => rfl
  | cons first base ih => rw [List.cons_append, List.cons_append, relativeNames, if_pos rfl, ih]

theorem relativeNames_nil (start : List String) :
    relativeNames start [] = List.replicate start.length ".." := by
  cases start <;> simp [relativeNames]

/-- The way to the directory above one that holds the place leads up alone, and stops at the
root. -/
theorem relativeNames_dropLast : relativeNames (base ++ start) base.dropLast =
    List.replicate (start.length + if base = [] then 0 else 1) ".." := by
  rcases List.eq_nil_or_concat base with rfl | ⟨above, name, rfl⟩
  · exact relativeNames_nil start
  · rw [List.concat_eq_append, List.dropLast_concat, List.append_assoc, List.singleton_append]
    -- The two places part at the last name of the base, so that every name from it on is gone up.
    have way : relativeNames (above ++ name :: start) (above ++ []) =
        relativeNames (name :: start) [] := relativeNames_append_left
    rw [List.append_nil, relativeNames_nil] at way
    rw [way, if_neg (by simp), List.length_cons]

/-- A way leads up to where two places part, and down from there. -/
theorem exists_relativeNames_eq (start target : List String) :
    ∃ common up down, start = common ++ up ∧ target = common ++ down ∧
      relativeNames start target = List.replicate up.length ".." ++ down ∧
      ∀ name, up.head? = some name → down.head? ≠ some name := by
  induction start generalizing target with
  | nil => exact ⟨[], [], target, rfl, rfl, by simp [relativeNames], by simp⟩
  | cons first start ih =>
    cases target with
    | nil =>
      exact ⟨[], first :: start, [], rfl, rfl, by rw [relativeNames_nil, List.append_nil], by simp⟩
    | cons name target =>
      by_cases same : first = name
      -- A shared name belongs to the common part.
      · subst same
        obtain ⟨common, up, down, rfl, rfl, way, part⟩ := ih target
        exact ⟨first :: common, up, down, rfl, rfl, by rw [relativeNames, if_pos rfl, way], part⟩
      · refine ⟨[], first :: start, name :: target, rfl, rfl, ?_, ?_⟩
        · rw [relativeNames, if_neg same, List.length_cons]
        · rintro _ ⟨⟩ ⟨⟩
          exact same rfl

/-- Two places share no more than the names up to where they part. -/
theorem length_le_of_part {common up down front : List String}
    (part : ∀ name, up.head? = some name → down.head? ≠ some name)
    (here : front <+: common ++ up) (there : front <+: common ++ down) :
    front.length ≤ common.length := by
  induction common generalizing front with
  | nil =>
    cases front with
    | nil => exact Nat.le_refl _
    | cons name front =>
      obtain ⟨_, rfl⟩ := here
      obtain ⟨_, rfl⟩ := there
      exact absurd rfl (part name rfl)
  | cons first common ih =>
    cases front with
    | nil => exact Nat.zero_le _
    | cons name front =>
      rw [List.cons_append, List.cons_prefix_cons] at here there
      exact Nat.succ_le_succ (ih here.2 there.2)

end EntryPoint
