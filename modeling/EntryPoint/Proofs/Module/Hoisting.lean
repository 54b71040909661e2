/-
# The order of inlined statements

A generated module that inlines the function's module keeps the order of its
statements, but for those that it moves to the front. Which ones these are is told
by the name of the module that they import from, whatever its level: next to the
imports that change the language, a relative import from a module of the same name
overtakes all other statements before it.

Statements of a module may be equal, so that an order is one of places and not of
statements: every statement of the function's module gets a place in the generated
one, and there is just one way to give them out that keeps equal statements in order.

## Main definitions

* `IsPlacement` - which member of a list stands where in a whole.
* `frontPlace` - where members stand after those with a property have moved to the front.
* `ChangesLanguage`, `ImportsFutureNamed` - the imports that have to move, and those that do.
* `IsInlining` - a placement of inlined statements in a generated module.
* `MovesByName`, `MovesChangesOnly`, `RelativesLead` - which statements overtake which, whether only
  such as have to, and when.

## Main results

* `IsPlacement.unique` - there is one placement at most.
* `exists_isPlacement_frontPlace` - the placement of a list whose members have moved to the front.
* `frontPlace_lt_frontPlace_iff` - which members overtake which.
* `inlined_overtakes_iff` - which statements overtake which, and when only imports that change
  the language do.
-/

import EntryPoint.Proofs.Module.Inlining
import Mathlib.Order.Fin.Basic

namespace EntryPoint

open Syntax Text

/-! ### Placements -/

section Placement

variable {α : Type} {members whole : List α} {IsOpen : ℕ → Prop}
  {place place' : Fin members.length → Fin whole.length}

/-- Where the members of a list stand in a whole: the places that are open to them are the places of
one member each, and equal members are in order. -/
structure IsPlacement (members whole : List α) (IsOpen : ℕ → Prop)
    (place : Fin members.length → Fin whole.length) : Prop where
  get_eq (index : Fin members.length) : whole[place index] = members[index]
  isOpen_iff (spot : Fin whole.length) : IsOpen spot ↔ ∃ index, place index = spot
  keeps (first second : Fin members.length) :
    first < second → members[first] = members[second] → place first < place second

/-- A member stands no later than in another placement, if all members before it have the same place
in both. -/
theorem IsPlacement.le_of_forall_lt (placed : IsPlacement members whole IsOpen place)
    (placed' : IsPlacement members whole IsOpen place') {index : Fin members.length}
    (same : ∀ earlier < index, place' earlier = place earlier) :
    place index ≤ place' index := by
  by_contra less
  have before : place' index < place index := lt_of_not_ge less
  -- The place is open, so that it is the place of some member in the other placement as well.
  obtain ⟨taker, taken⟩ :=
    (placed.isOpen_iff (place' index)).mp ((placed'.isOpen_iff _).mpr ⟨index, rfl⟩)
  have equal : members[taker] = members[index] := by
    calc members[taker] = whole[place taker] := (placed.get_eq taker).symm
      _ = whole[place' index] := by simp only [taken]
      _ = members[index] := placed'.get_eq index
  rcases lt_trichotomy taker index with earlier | rfl | later
  -- A taker in front has the same place in both placements, so that two equal members would share
  -- it.
  · have ordered := placed'.keeps taker index earlier equal
    rw [same taker earlier, taken] at ordered
    exact lt_irrefl _ ordered
  · rw [taken] at before
    exact lt_irrefl _ before
  · have ordered := placed.keeps index taker later equal.symm
    rw [taken] at ordered
    exact lt_irrefl _ (ordered.trans before)

theorem IsPlacement.unique (placed : IsPlacement members whole IsOpen place)
    (placed' : IsPlacement members whole IsOpen place') : place' = place := by
  funext index
  induction index using WellFoundedLT.induction with
  | ind index same =>
    apply le_antisymm
    · exact placed'.le_of_forall_lt placed fun earlier less => (same earlier less).symm
    · exact placed.le_of_forall_lt placed' same

end Placement

/-! ### Moving to the front -/

section Front

variable {α : Type} {p : α → Bool} {members own ending : List α} {first second : ℕ}

theorem countP_take_lt (p : α → Bool) (ordered : first < second)
    (within : first < members.length) (holds : p members[first]) :
    (members.take first).countP p < (members.take second).countP p := by
  have split : members.take (first + 1) = members.take first ++ [members[first]] := by simp
  have step : (members.take (first + 1)).countP p = (members.take first).countP p + 1 := by
    rw [split, List.countP_append, List.countP_singleton, if_pos holds]
  have further : (members.take (first + 1)).Sublist (members.take second) :=
    List.take_sublist_take_left ordered
  have grown := further.countP_le (p := p)
  omega

/-- Among the members with a property, a member stands behind as many as are before it. -/
theorem getElem?_filter (p : α → Bool) (within : first < members.length)
    (holds : p members[first]) :
    (members.filter p)[(members.take first).countP p]? = some members[first] := by
  have split : members = members.take first ++ members[first] :: members.drop (first + 1) := by
    simp
  have filtered : members.filter p =
      (members.take first).filter p ++ members[first] :: (members.drop (first + 1)).filter p := by
    conv_lhs => rw [split]
    rw [List.filter_append, List.filter_cons_of_pos holds]
  rw [filtered, List.countP_eq_length_filter]
  simp

/-- Every place among the members with a property is that of one of them. -/
theorem exists_countP_take_eq {spot : ℕ} (p : α → Bool) (within : spot < members.countP p) :
    ∃ index, ∃ inside : index < members.length,
      p members[index] ∧ (members.take index).countP p = spot := by
  induction members generalizing spot with
  | nil => simp at within
  | cons member rest ih =>
    -- The member in front counts only if it holds, so that the search goes on with one less or as
    -- many.
    by_cases holds : p member
    · cases spot with
      | zero => exact ⟨0, by simp, holds, by simp⟩
      | succ spot =>
        rw [List.countP_cons_of_pos holds] at within
        obtain ⟨index, inside, found, counted⟩ := ih (Nat.lt_of_succ_lt_succ within)
        exact ⟨index + 1, by simpa using inside, found, by simp [holds, counted]⟩
    · rw [List.countP_cons_of_neg holds] at within
      obtain ⟨index, inside, found, counted⟩ := ih within
      exact ⟨index + 1, by simpa using inside, found, by simp [holds, counted]⟩

/-- The place of the member at an index, when the members with a property have moved to the front,
with a gap behind them. -/
def frontPlace (p : α → Bool) (gap : ℕ) (members : List α) (index : ℕ) : ℕ :=
  if members[index]?.any p then (members.take index).countP p
  else members.countP p + gap + (members.take index).countP (!p ·)

/-- The places before the gap and behind it. -/
def IsOutsideGap (p : α → Bool) (gap : ℕ) (members : List α) (spot : ℕ) : Prop :=
  spot < members.countP p ∨ members.countP p + gap ≤ spot ∧ spot < gap + members.length

variable {gap : ℕ}

theorem frontPlace_of_pos (within : first < members.length) (holds : p members[first]) :
    frontPlace p gap members first = (members.take first).countP p := by
  rw [frontPlace, List.getElem?_eq_getElem within, Option.any_some, if_pos holds]

theorem frontPlace_of_neg (within : first < members.length) (fails : ¬p members[first]) :
    frontPlace p gap members first =
      members.countP p + gap + (members.take first).countP (!p ·) := by
  rw [frontPlace, List.getElem?_eq_getElem within, Option.any_some, if_neg fails]

theorem countP_take_lt_countP (p : α → Bool) (within : first < members.length)
    (holds : p members[first]) : (members.take first).countP p < members.countP p := by
  have less := countP_take_lt p within within holds
  rwa [List.take_length] at less

/-- A member that has the property overtakes those before it that have not. -/
theorem frontPlace_lt_of_overtakes (ordered : first < second) (within : second < members.length)
    (holds : p members[second]) (fails : ¬p members[first]) :
    frontPlace p gap members second < frontPlace p gap members first := by
  rw [frontPlace_of_pos within holds, frontPlace_of_neg (ordered.trans within) fails]
  have less := countP_take_lt_countP p within holds
  omega

/-- All other members are in order. -/
theorem frontPlace_lt_of_not_overtakes (ordered : first < second)
    (within : second < members.length) (keeps : p members[second] → p members[first]) :
    frontPlace p gap members first < frontPlace p gap members second := by
  have within' : first < members.length := ordered.trans within
  -- Only if the first holds can the second; otherwise both stand in the rest, in the order of the
  -- rest.
  by_cases holds' : p members[first]
  · have less := countP_take_lt p ordered within' holds'
    have inside := countP_take_lt_countP p within' holds'
    by_cases holds : p members[second]
    · rwa [frontPlace_of_pos within holds, frontPlace_of_pos within' holds']
    · rw [frontPlace_of_neg within holds, frontPlace_of_pos within' holds']
      omega
  · have fails : ¬p members[second] := fun holds => holds' (keeps holds)
    have less := countP_take_lt (!p ·) ordered within' (by simpa using holds')
    rw [frontPlace_of_neg within fails, frontPlace_of_neg within' holds']
    omega

theorem frontPlace_lt_frontPlace_iff (ordered : first < second)
    (within : second < members.length) :
    frontPlace p gap members second < frontPlace p gap members first ↔
      p members[second] ∧ ¬p members[first] := by
  constructor
  · intro less
    by_contra keeps
    have ordered' : frontPlace p gap members first < frontPlace p gap members second :=
      frontPlace_lt_of_not_overtakes ordered within fun holds =>
        by_contra fun fails => keeps ⟨holds, fails⟩
    exact lt_asymm less ordered'
  · rintro ⟨holds, fails⟩
    exact frontPlace_lt_of_overtakes ordered within holds fails

/-- Every member stands at its place. -/
theorem getElem?_frontPlace (within : first < members.length) :
    (members.filter p ++ own ++ members.filter (!p ·) ++ ending)[frontPlace p own.length members
      first]? = some members[first] := by
  by_cases holds : p members[first]
  · have found := getElem?_filter p within holds
    have inside := (List.getElem?_eq_some_iff.mp found).1
    rw [frontPlace_of_pos within holds, List.append_assoc, List.append_assoc,
      List.getElem?_append_left inside, found]
  · have found := getElem?_filter (!p ·) within (by simpa using holds)
    have inside := (List.getElem?_eq_some_iff.mp found).1
    have behind : (members.filter p ++ own).length = members.countP p + own.length := by
      rw [List.length_append, List.countP_eq_length_filter]
    rw [frontPlace_of_neg within holds, List.append_assoc, List.getElem?_append_right (by omega),
      behind, Nat.add_sub_cancel_left, List.getElem?_append_left inside, found]

/-- The places before the gap and behind it are those of members. -/
theorem isOutsideGap_iff {spot : ℕ} : IsOutsideGap p gap members spot ↔
    ∃ index < members.length, frontPlace p gap members index = spot := by
  have total : members.length = members.countP p + members.countP (!p ·) := by
    simpa using members.length_eq_countP_add_countP p
  constructor
  -- A place in front is counted among those that hold, one behind the gap among those that do not.
  · rintro (before | ⟨behind, inside⟩)
    · obtain ⟨index, within, holds, counted⟩ := exists_countP_take_eq p before
      exact ⟨index, within, (frontPlace_of_pos within holds).trans counted⟩
    · have remaining : spot - (members.countP p + gap) < members.countP (!p ·) := by omega
      obtain ⟨index, within, fails, counted⟩ := exists_countP_take_eq (!p ·) remaining
      refine ⟨index, within, ?_⟩
      rw [frontPlace_of_neg within (by simpa using fails), counted]
      omega
  · rintro ⟨index, within, rfl⟩
    by_cases holds : p members[index]
    · rw [frontPlace_of_pos within holds]
      exact .inl (countP_take_lt_countP p within holds)
    · rw [frontPlace_of_neg within holds]
      have less := countP_take_lt_countP (!p ·) within (by simpa using holds)
      exact .inr (by omega)

/-- The placement of members of which those with a property have moved to the front. -/
theorem exists_isPlacement_frontPlace (p : α → Bool) (members own ending : List α) :
    ∃ place, IsPlacement members (members.filter p ++ own ++ members.filter (!p ·) ++ ending)
      (IsOutsideGap p own.length members) place ∧
      ∀ index : Fin members.length,
        (place index : ℕ) = frontPlace p own.length members index := by
  have spot (index : Fin members.length) :
      (members.filter p ++ own ++ members.filter (!p ·) ++ ending)[frontPlace p own.length members
        index]? = some members[index] := getElem?_frontPlace index.isLt
  have found (index : Fin members.length) := List.getElem?_eq_some_iff.mp (spot index)
  refine ⟨fun index => ⟨frontPlace p own.length members index, (found index).1⟩,
    ⟨fun index => (found index).2, fun spot => ?_, fun first second ordered equal => ?_⟩,
    fun index => rfl⟩
  · rw [isOutsideGap_iff]
    constructor
    · rintro ⟨index, within, same⟩
      exact ⟨⟨index, within⟩, Fin.ext same⟩
    · rintro ⟨index, rfl⟩
      exact ⟨index, index.isLt, rfl⟩
  · apply frontPlace_lt_of_not_overtakes ordered second.isLt
    intro holds
    rwa [show members[(first : ℕ)] = members[(second : ℕ)] from equal]

end Front

/-! ### Imports that change the language -/

/-- An import from a module of the name that changes the language, at whatever level. -/
def ImportsFutureNamed (stmt : Stmt) : Prop :=
  ∃ names level, stmt = .importFrom (some "__future__") names level

/-- An import that changes the language of its module: one from the module of that name itself, with
no point in front. -/
def ChangesLanguage (stmt : Stmt) : Prop :=
  ∃ names, stmt = .importFrom (some "__future__") names 0

theorem isFutureImport_iff (stmt : Stmt) : isFutureImport stmt ↔ ImportsFutureNamed stmt := by
  constructor
  · intro future
    cases stmt with
    | importFrom source names level =>
      obtain rfl : source = some "__future__" := by simpa [isFutureImport] using future
      exact ⟨names, level, rfl⟩
    | _ => cases future
  · rintro ⟨names, level, rfl⟩
    simp [isFutureImport]

theorem ChangesLanguage.importsFutureNamed {stmt : Stmt} (changes : ChangesLanguage stmt) :
    ImportsFutureNamed stmt := by
  obtain ⟨names, rfl⟩ := changes
  exact ⟨names, 0, rfl⟩

/-! ### The order of the statements -/

section Order

variable {entry module : List Stmt} {place : Fin entry.length → Fin module.length}

/-- A placement of the statements of the function's module in one that inlines it and loads the
library by some statements of its own. -/
def IsInlining (entry own module : List Stmt) (place : Fin entry.length → Fin module.length) :
    Prop :=
  IsPlacement entry module (IsOutsideGap isFutureImport own.length entry) place

/-- Of two statements the later one overtakes the other exactly if it imports from a module of the
name that changes the language, at any level, and the other does not. -/
def MovesByName (place : Fin entry.length → Fin module.length) : Prop :=
  ∀ first second : Fin entry.length, first < second →
    (place second < place first ↔
      ImportsFutureNamed entry[second] ∧ ¬ImportsFutureNamed entry[first])

/-- Only imports that change the language overtake others, and only such that do not. -/
def MovesChangesOnly (place : Fin entry.length → Fin module.length) : Prop :=
  ∀ first second : Fin entry.length, first < second → place second < place first →
    ChangesLanguage entry[second] ∧ ¬ChangesLanguage entry[first]

/-- Nothing but imports from modules of the name that changes the language stands before the
relative ones among them. -/
def RelativesLead (entry : List Stmt) : Prop :=
  ∀ first second : Fin entry.length, first < second →
    ImportsFutureNamed entry[second] → ¬ChangesLanguage entry[second] →
      ImportsFutureNamed entry[first]

theorem MovesByName.movesChangesOnly_iff (moves : MovesByName place) :
    MovesChangesOnly place ↔ RelativesLead entry := by
  constructor
  · intro genuine first second ordered named relative
    by_contra unnamed
    have passed := (moves first second ordered).mpr ⟨named, unnamed⟩
    exact relative (genuine first second ordered passed).1
  · intro lead first second ordered passed
    obtain ⟨named, unnamed⟩ := (moves first second ordered).mp passed
    constructor
    · by_contra relative
      exact unnamed (lead first second ordered named relative)
    · exact fun changes => unnamed changes.importsFutureNamed

end Order

variable {site : Site} {signature : Signature} {options : Options} {context : Context}
  {module : List Stmt}

theorem exists_isInlining_inlinedLayout (entry : List Stmt) (signature : Signature)
    (options : Options) (context : Context) (declared : List Link) (file : String) :
    ∃ place, IsInlining entry (loading options file)
      (inlinedLayout entry signature options context declared file) place ∧
      MovesByName place := by
  obtain ⟨place, placed, frontmost⟩ := exists_isPlacement_frontPlace isFutureImport entry
    (loading options file) [exportsList options.functionName,
      wrapperFunction (wrapperBody signature options declared) options,
      invocation options.functionName context.args options.asyncFunction]
  refine ⟨place, placed, fun first second ordered => ?_⟩
  have passes : frontPlace isFutureImport (loading options file).length entry second <
      frontPlace isFutureImport (loading options file).length entry first ↔
        isFutureImport entry[second] ∧ ¬isFutureImport entry[first] :=
    frontPlace_lt_frontPlace_iff ordered second.isLt
  rw [← frontmost, ← frontmost, isFutureImport_iff, isFutureImport_iff] at passes
  exact passes

/-- The statements of the function's module have one placement in a module that inlines it. One of
them overtakes another before it if and only if it imports from a module of the name that changes
the language, at any level, and the other does not. So only imports that change the language move
if and only if the relative ones of that name stand behind none but imports from modules of that
name. -/
theorem inlined_overtakes_iff (rendered : render site signature options context = .ok module)
    (inlined : context.inlines = true) :
    ∃ declared file place,
      declarations signature = List.map Link.toExpr declared ∧
      site.modules.find options.lib = .ok file ∧
      module = inlinedLayout site.entry signature options context declared file ∧
      IsInlining site.entry (loading options file) module place ∧
      (∀ place', IsInlining site.entry (loading options file) module place' → place' = place) ∧
      MovesByName place ∧
      (MovesChangesOnly place ↔ RelativesLead site.entry) := by
  obtain ⟨-, -, declared, file, declares, found, rfl⟩ :=
    (render_inlined_eq_ok_iff inlined).mp rendered
  obtain ⟨place, placed, moves⟩ :=
    exists_isInlining_inlinedLayout site.entry signature options context declared file
  exact ⟨declared, file, place, declares, found, rfl, placed,
    fun place' placed' => IsPlacement.unique placed placed', moves, moves.movesChangesOnly_iff⟩

/-- Where a module that changes its language twice is inlined, nothing else moves. -/
theorem inlined_overtakes_repetitive :
    ∃ module, render besideLibrary (exporting "greet") {} { inlines := true } = .ok module ∧
      ∃ place : Fin repetitive.length → Fin module.length,
        IsInlining repetitive (loading {} "/lib/yargs/__init__.py") module place ∧
        place ⟨1, by decide⟩ < place ⟨0, by decide⟩ ∧
        ¬place ⟨3, by decide⟩ < place ⟨1, by decide⟩ ∧ MovesChangesOnly place := by
  obtain ⟨module, rendered⟩ : ∃ module,
      render besideLibrary (exporting "greet") {} { inlines := true } = .ok module := ⟨_, rfl⟩
  obtain ⟨declared, file, place, -, found, -, placed, -, moves, iff⟩ :=
    inlined_overtakes_iff rendered rfl
  obtain rfl : "/lib/yargs/__init__.py" = file := Except.ok.inj found
  have changes : ImportsFutureNamed repetitive[1] := ⟨_, _, rfl⟩
  have passes : ¬ImportsFutureNamed repetitive[0] := by rintro ⟨names, level, ⟨⟩⟩
  have genuine : ∀ stmt ∈ repetitive, ImportsFutureNamed stmt → ChangesLanguage stmt := by
    intro stmt member named
    obtain ⟨names, level, rfl⟩ := named
    obtain ⟨rfl, rfl⟩ : names = [{ name := "annotations" }] ∧ level = 0 := by
      simpa [repetitive] using member
    exact ⟨_, rfl⟩
  refine ⟨module, rendered, place, placed, (moves _ _ (by decide)).mpr ⟨changes, passes⟩,
    fun before => ((moves _ _ (by decide)).mp before).2 changes, iff.mpr ?_⟩
  intro first second ordered named relative
  exact absurd (genuine _ (List.getElem_mem second.isLt) named) relative

/-- A module that opens with a text, followed by a relative import. -/
def greeting : List Stmt :=
  [.expression (textExpr "Greetings."),
    .importFrom (some "__future__") [{ name := "annotations" }] 1]

/-- A relative import overtakes the text before it. -/
theorem relative_import_overtakes :
    ∃ module, render { besideLibrary with entry := greeting } (exporting "greet") {}
        { inlines := true } = .ok module ∧
      ∃ place, IsInlining greeting (loading {} "/lib/yargs/__init__.py") module place ∧
        place ⟨1, by decide⟩ < place ⟨0, by decide⟩ ∧ ¬ChangesLanguage greeting[1] := by
  obtain ⟨place, placed, moves⟩ :=
    exists_isInlining_inlinedLayout greeting (exporting "greet") {} { inlines := true } []
      "/lib/yargs/__init__.py"
  have named : ImportsFutureNamed greeting[1] := ⟨_, _, rfl⟩
  have unnamed : ¬ImportsFutureNamed greeting[0] := by rintro ⟨names, level, ⟨⟩⟩
  have relative : ¬ChangesLanguage greeting[1] := by rintro ⟨names, ⟨⟩⟩
  exact ⟨_, rfl, place, placed, (moves _ _ (by decide)).mpr ⟨named, unnamed⟩, relative⟩

end EntryPoint
