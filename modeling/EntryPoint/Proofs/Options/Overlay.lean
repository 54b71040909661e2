/-
# Options that are merged

What a caller supplies of the options is laid over the defaults and read as a
whole. That comes to the same as reading it alone, because the result depends only
on what each option reads and on the overrides that name none. So merged options
merge to themselves, and overrides that are laid over them come to the same as
all overrides at once.

## Main definitions

* `Overrides.reading`, `Overrides.unknown` - what an option reads, and what no option does.
* `Overrides.Alike` - overrides that cannot be told apart by the options.
* `GivenOptions.Sound` - options that were read from overrides.

## Main results

* `Overrides.Alike.ofOverrides_eq` - overrides that are alike come to the same.
* `Options.merge_eq_map` - merging is reading what is supplied.
* `Options.exists_merge_eq_ok_iff` - which overrides are merged.
* `Options.merge_lawful` - the laws of merging.
-/

import EntryPoint.Proofs.Options.Merging
import EntryPoint.Proofs.Options.Names

namespace EntryPoint

open Document

/-! ### Overrides that are alike -/

namespace Overrides

variable {overrides other further : Overrides} {key : OptionKey} {options : Options}

/-- What an option reads: the value that overrides it, or its default. -/
def reading (overrides : Overrides) (key : OptionKey) : Except ViolationKind Setting :=
  match overrides.lookup key.name with
  | none => .ok (Options.get {} key)
  | some value => key.read value

/-- The overrides that name no option. -/
def unknown (overrides : Overrides) : Overrides :=
  overrides.filter fun (name, _) => (OptionKey.ofName? name).isNone

/-- Overrides of which every option reads the same and no option the others. -/
structure Alike (overrides other : Overrides) : Prop where
  reading : ∀ key, overrides.reading key = other.reading key
  unknown : overrides.unknown = other.unknown

theorem violation?_eq (overrides : Overrides) (key : OptionKey) :
    Options.violation? overrides key =
      match overrides.reading key with
      | .ok _ => none
      | .error kind => some ⟨[.key key.name], kind⟩ := by
  unfold Options.violation? reading
  cases overrides.lookup key.name with
  | none => rfl
  | some value => rfl

theorem violations_eq (overrides : Overrides) : Options.violations overrides =
    OptionKey.all.filterMap (Options.violation? overrides) ++
      overrides.unknown.map fun (name, _) => ⟨[.key name], .unknownField⟩ :=
  rfl

theorem Alike.violations_eq (alike : overrides.Alike other) :
    Options.violations overrides = Options.violations other := by
  have each : Options.violation? overrides = Options.violation? other := by
    funext key
    rw [violation?_eq, violation?_eq, alike.reading]
  rw [Overrides.violations_eq, Overrides.violations_eq, each, alike.unknown]

/-- Overrides fit exactly where all of them name options, each of which reads something. -/
theorem fit_iff : overrides.Fit ↔
    overrides.unknown = [] ∧ ∀ key, ∃ setting, overrides.reading key = .ok setting := by
  rw [← Options.violations_eq_nil_iff, violations_eq, List.append_eq_nil_iff, List.map_eq_nil_iff,
    List.filterMap_eq_nil_iff, and_comm]
  refine and_congr Iff.rfl ⟨fun clean key => ?_, fun read key _ => ?_⟩
  · have clean := clean key key.mem_all
    rw [violation?_eq] at clean
    cases found : overrides.reading key with
    | ok setting => exact ⟨setting, rfl⟩
    | error kind => rw [found] at clean; cases clean
  · obtain ⟨setting, found⟩ := read key
    rw [violation?_eq, found]

/-- The options of overrides are what they read. -/
theorem ofOverrides_eq_ok_iff : Options.ofOverrides overrides = .ok options ↔
    overrides.unknown = [] ∧ ∀ key, overrides.reading key = .ok (options.get key) := by
  -- Both directions go through overrides that fit, of which the options are known.
  have read_of_fit (fit : overrides.Fit) : ∃ found, Options.ofOverrides overrides = .ok found ∧
      ∀ key, overrides.reading key = .ok (found.get key) := by
    obtain ⟨found, accepted, get⟩ := Options.exists_ofOverrides fit
    refine ⟨found, accepted, fun key => ?_⟩
    obtain ⟨setting, read⟩ := (fit_iff.mp fit).2 key
    rw [get]
    unfold reading at read ⊢
    cases overriding : overrides.lookup key.name with
    | none => rfl
    | some value =>
      rw [overriding] at read
      simp only [Option.map_some, read]
      rfl
  constructor
  · intro accepted
    have fit : overrides.Fit := by
      by_contra unfit
      obtain ⟨rejection, rejected⟩ := Options.exists_ofOverrides_eq_error unfit
      cases accepted.symm.trans rejected
    obtain ⟨found, same, read⟩ := read_of_fit fit
    cases accepted.symm.trans same
    exact ⟨(fit_iff.mp fit).1, read⟩
  · rintro ⟨known, read⟩
    obtain ⟨found, accepted, get⟩ := read_of_fit (fit_iff.mpr ⟨known, fun key => ⟨_, read key⟩⟩)
    rw [accepted, Options.ext_get fun key => Except.ok.inj ((get key).symm.trans (read key))]

/-- Overrides that are alike come to the same options, or are rejected for the same. -/
theorem Alike.ofOverrides_eq (alike : overrides.Alike other) :
    Options.ofOverrides overrides = Options.ofOverrides other := by
  cases accepted : Options.ofOverrides other with
  | ok options =>
    obtain ⟨known, read⟩ := ofOverrides_eq_ok_iff.mp accepted
    exact ofOverrides_eq_ok_iff.mpr
      ⟨alike.unknown.trans known, fun key => (alike.reading key).trans (read key)⟩
  | error rejection =>
    unfold Options.ofOverrides at accepted ⊢
    rw [alike.violations_eq]
    split at accepted
    · cases accepted
    · exact accepted

theorem reading_update (distinct : (further.map Prod.fst).Nodup) :
    reading (Association.update overrides further) key =
      match further.lookup key.name with
      | none => overrides.reading key
      | some value => key.read value := by
  unfold reading
  rw [Association.lookup_update distinct]
  cases further.lookup key.name <;> rfl

theorem unknown_update : unknown (Association.update overrides further) =
    Association.update overrides.unknown further.unknown :=
  Association.filter_update fun name => (OptionKey.ofName? name).isNone

/-- Further overrides keep overrides alike. -/
theorem Alike.update (alike : overrides.Alike other) (distinct : (further.map Prod.fst).Nodup) :
    Alike (Association.update overrides further) (Association.update other further) where
  reading key := by rw [reading_update distinct, reading_update distinct, alike.reading]
  unknown := by rw [unknown_update, unknown_update, alike.unknown]

end Overrides

/-! ### Options as overrides -/

namespace GivenOptions

variable {given : GivenOptions} {overrides : Overrides} {options : Options}

/-- Options whose names can be bound, and which are defaults unless they were given. -/
structure Sound (given : GivenOptions) : Prop where
  names : given.options.NamesBindable
  unset : ∀ key ∉ given.given, given.options.get key = Options.get {} key
  nodup : given.given.Nodup

theorem Sound.of_all (names : options.NamesBindable) : Sound ⟨options, OptionKey.all⟩ where
  names := names
  unset key absent := absurd key.mem_all absent
  nodup := OptionKey.nodup_all

theorem ofOverrides_eq_ok_iff : ofOverrides overrides = .ok given ↔
    Options.ofOverrides overrides = .ok given.options ∧
      given.given = OptionKey.all.filter fun key => (overrides.lookup key.name).isSome := by
  unfold ofOverrides
  rw [bind_eq_ok_iff]
  constructor
  · rintro ⟨options, accepted, made⟩
    cases made
    exact ⟨accepted, rfl⟩
  · rintro ⟨accepted, named⟩
    exact ⟨given.options, accepted, by rw [← named]; rfl⟩

theorem sound_of_ofOverrides (read : ofOverrides overrides = .ok given) : given.Sound := by
  obtain ⟨accepted, named⟩ := ofOverrides_eq_ok_iff.mp read
  obtain ⟨-, get⟩ := Overrides.ofOverrides_eq_ok_iff.mp accepted
  refine ⟨Options.namesBindable_of_ofOverrides accepted, fun key absent => ?_, ?_⟩
  · have missing : overrides.lookup key.name = none := by
      rw [named, List.mem_filter] at absent
      by_contra present
      exact absent ⟨key.mem_all, Option.isSome_iff_ne_none.mpr present⟩
    have get := get key
    unfold Overrides.reading at get
    rw [missing] at get
    exact (Except.ok.inj get).symm
  · rw [named]
    exact OptionKey.nodup_all.filter _

theorem lookup_toOverrides (given : GivenOptions) (key : OptionKey) :
    given.toOverrides.lookup key.name =
      if key ∈ given.given then some (given.options.get key).toValue else none := by
  unfold toOverrides
  induction given.given with
  | nil => rfl
  | cons first keys ih =>
    rw [List.map_cons, List.lookup_cons, ih]
    by_cases same : key = first
    · simp [same]
    · have apart : (key.name == first.name) = false :=
        beq_eq_false_iff_ne.mpr fun equal => same (OptionKey.name_injective equal)
      simp [apart, same]

theorem unknown_toOverrides (given : GivenOptions) : given.toOverrides.unknown = [] := by
  unfold Overrides.unknown toOverrides
  rw [List.filter_eq_nil_iff]
  rintro override member
  obtain ⟨key, -, rfl⟩ := List.mem_map.mp member
  simp [OptionKey.ofName?_name]

theorem Sound.nodup_toOverrides (sound : given.Sound) : (given.toOverrides.map Prod.fst).Nodup := by
  have names : given.toOverrides.map Prod.fst = given.given.map OptionKey.name := by
    unfold toOverrides
    rw [List.map_map]
    rfl
  rw [names]
  exact sound.nodup.map OptionKey.name_injective

theorem Sound.reading_toOverrides (sound : given.Sound) (key : OptionKey) :
    given.toOverrides.reading key = .ok (given.options.get key) := by
  unfold Overrides.reading
  rw [lookup_toOverrides]
  by_cases named : key ∈ given.given
  · rw [if_pos named]
    exact OptionKey.read_get sound.names key
  · rw [if_neg named, sound.unset key named]

/-- Options are read back from what was given of them. -/
theorem Sound.ofOverrides_toOverrides (sound : given.Sound) :
    Options.ofOverrides given.toOverrides = .ok given.options :=
  Overrides.ofOverrides_eq_ok_iff.mpr ⟨given.unknown_toOverrides, sound.reading_toOverrides⟩

/-- What was given of the options is like the overrides that they were read from. -/
theorem Sound.alike (sound : given.Sound)
    (accepted : Options.ofOverrides overrides = .ok given.options) :
    given.toOverrides.Alike overrides := by
  obtain ⟨known, read⟩ := Overrides.ofOverrides_eq_ok_iff.mp accepted
  exact ⟨fun key => (sound.reading_toOverrides key).trans (read key).symm,
    given.unknown_toOverrides.trans known.symm⟩

end GivenOptions

/-! ### Merging -/

namespace Options

variable {overrides : Overrides} {merged : GivenOptions}

/-- Overrides that are laid over the defaults are like those overrides. -/
theorem alike_update_default (distinct : (overrides.map Prod.fst).Nodup) :
    Overrides.Alike (Association.update (toOverrides {}) overrides) overrides := by
  -- No option can tell that its default was given.
  have defaults : (toOverrides {}).Alike [] :=
    (GivenOptions.Sound.of_all namesBindable_default).alike rfl
  have nothing : Association.update [] overrides = overrides :=
    Association.update_of_notMem distinct fun _ _ => List.not_mem_nil
  have alike := defaults.update distinct
  rwa [nothing] at alike

/-- Merging comes to what is supplied, with every option given. -/
theorem merge_eq_map (source : OptionsSource)
    (distinct : (source.toOverrides.map Prod.fst).Nodup) :
    merge source = (ofOverrides source.toOverrides).map (⟨·, OptionKey.all⟩) := by
  -- The defaults name every option, and what is laid over them takes no name away.
  have each : (OptionKey.all.filter fun key => ((Association.update (toOverrides {})
      source.toOverrides).lookup key.name).isSome) = OptionKey.all := by
    rw [List.filter_eq_self]
    intro key _
    rw [Association.lookup_update distinct]
    have present : (toOverrides {}).lookup key.name = some (Options.get {} key).toValue :=
      (GivenOptions.lookup_toOverrides ⟨{}, OptionKey.all⟩ key).trans (if_pos key.mem_all)
    rw [present, Option.isSome_or, Option.isSome_some, Bool.or_true]
  unfold merge GivenOptions.ofOverrides
  rw [(alike_update_default distinct).ofOverrides_eq, each]
  cases ofOverrides source.toOverrides <;> rfl

theorem merge_overrides_eq (distinct : (overrides.map Prod.fst).Nodup) :
    merge (.overrides overrides) = (ofOverrides overrides).map (⟨·, OptionKey.all⟩) :=
  merge_eq_map (.overrides overrides) distinct

theorem merge_overrides_eq_ok_iff (distinct : (overrides.map Prod.fst).Nodup) :
    merge (.overrides overrides) = .ok merged ↔
      ofOverrides overrides = .ok merged.options ∧ merged.given = OptionKey.all := by
  rw [merge_overrides_eq distinct]
  cases ofOverrides overrides with
  | error rejection => simp [Except.map]
  | ok options =>
    obtain ⟨found, given⟩ := merged
    simp [Except.map, eq_comm]

/-- Merged options are what the overrides read. -/
theorem reading_of_merge (distinct : (overrides.map Prod.fst).Nodup)
    (accepted : merge (.overrides overrides) = .ok merged) (key : OptionKey) :
    overrides.reading key = .ok (merged.options.get key) :=
  (Overrides.ofOverrides_eq_ok_iff.mp ((merge_overrides_eq_ok_iff distinct).mp accepted).1).2 key

/-- Overrides that do not fit are not merged. -/
theorem exists_merge_eq_error (distinct : (overrides.map Prod.fst).Nodup)
    (unfit : ¬overrides.Fit) : ∃ rejection, merge (.overrides overrides) = .error rejection := by
  obtain ⟨rejection, rejected⟩ := exists_ofOverrides_eq_error unfit
  exact ⟨rejection, by rw [merge_overrides_eq distinct, rejected]; rfl⟩

/-- Overrides are merged exactly if they fit. -/
theorem exists_merge_eq_ok_iff (distinct : (overrides.map Prod.fst).Nodup) :
    (∃ merged, merge (.overrides overrides) = .ok merged) ↔ overrides.Fit := by
  constructor
  · rintro ⟨merged, accepted⟩
    by_contra unfit
    obtain ⟨rejection, rejected⟩ := exists_merge_eq_error distinct unfit
    cases accepted.symm.trans rejected
  · intro fit
    obtain ⟨options, read, -⟩ := exists_ofOverrides fit
    exact ⟨⟨options, OptionKey.all⟩, (merge_overrides_eq_ok_iff distinct).mpr ⟨read, rfl⟩⟩

/-- Overrides that are alike are merged alike. -/
theorem merge_eq_of_alike {other : Overrides} (alike : overrides.Alike other)
    (distinct : (overrides.map Prod.fst).Nodup) (distinct' : (other.map Prod.fst).Nodup) :
    merge (.overrides overrides) = merge (.overrides other) := by
  rw [merge_overrides_eq distinct, merge_overrides_eq distinct', alike.ofOverrides_eq]

end Options

/-- Options that were given are merged into themselves, with all of them given. -/
theorem GivenOptions.Sound.merge_eq {given : GivenOptions} (sound : given.Sound) :
    Options.merge (.options given) = .ok ⟨given.options, OptionKey.all⟩ := by
  rw [Options.merge_eq_map (.options given) sound.nodup_toOverrides]
  change (Options.ofOverrides given.toOverrides).map _ = _
  rw [sound.ofOverrides_toOverrides]
  rfl

/-! ### The laws -/

/-- Merging is a lawful way to override. Overrides are merged exactly where they can be read alone,
and are rejected for the same violations otherwise; the options are the same then, and so they are
if the options that were read are merged in place of the overrides. Merged options merge to
themselves, and further overrides laid over all of them come to what they come to laid over the
first overrides. -/
theorem Options.merge_lawful {overrides : Overrides} (distinct : (overrides.map Prod.fst).Nodup) :
    (merge (.overrides overrides)).map GivenOptions.options =
      (GivenOptions.ofOverrides overrides).map GivenOptions.options ∧
    (∀ given, GivenOptions.ofOverrides overrides = .ok given →
      (merge (.options given)).map GivenOptions.options = .ok given.options) ∧
    ∀ merged, merge (.overrides overrides) = .ok merged →
      merge (.options merged) = .ok merged ∧
      ∀ further : Overrides, (further.map Prod.fst).Nodup →
        merge (.overrides (Association.update merged.options.toOverrides further)) =
          merge (.overrides (Association.update overrides further)) := by
  refine ⟨?_, fun given read => ?_, fun merged accepted => ?_⟩
  · rw [merge_overrides_eq distinct]
    unfold GivenOptions.ofOverrides
    cases ofOverrides overrides <;> rfl
  · rw [(GivenOptions.sound_of_ofOverrides read).merge_eq]
    rfl
  · obtain ⟨accepted, each⟩ := (merge_overrides_eq_ok_iff distinct).mp accepted
    have sound : GivenOptions.Sound ⟨merged.options, OptionKey.all⟩ :=
      .of_all (namesBindable_of_ofOverrides accepted)
    have whole : (⟨merged.options, OptionKey.all⟩ : GivenOptions) = merged := by rw [← each]
    constructor
    · rw [← whole, sound.merge_eq]
    · intro further later
      -- All options at once are like the overrides they came from, and stay so below others.
      have alike : merged.options.toOverrides.Alike overrides := sound.alike accepted
      exact merge_eq_of_alike (alike.update later)
        (Association.nodup_update sound.nodup_toOverrides) (Association.nodup_update distinct)

/-- A word for off and a name are merged; what is laid over them is not an option, or not read. -/
theorem Options.merge_lawful_words :
    ∃ merged, merge (.overrides [("help", .text "OFF"), ("lib", .text "argtide")]) = .ok merged ∧
      merged.options = { help := false, lib := "argtide" } ∧
      merge (.options merged) = .ok merged ∧
      merge (.overrides (Association.update merged.options.toOverrides
        [("color", .null), ("strict", .text "maybe")])) = .error ⟨"RenderOptions",
          [⟨[.key "strict"], .unreadableTruth⟩, ⟨[.key "color"], .unknownField⟩]⟩ := by
  have distinct : ([("help", Value.text "OFF"), ("lib", .text "argtide")].map Prod.fst).Nodup := by
    decide
  have later : ([("color", Value.null), ("strict", .text "maybe")].map Prod.fst).Nodup := by decide
  have merged : merge (.overrides [("help", .text "OFF"), ("lib", .text "argtide")]) =
      .ok ⟨{ help := false, lib := "argtide" }, OptionKey.all⟩ := by decide +kernel
  obtain ⟨-, -, lawful⟩ := merge_lawful distinct
  obtain ⟨again, below⟩ := lawful _ merged
  refine ⟨_, merged, rfl, again, (below _ later).trans ?_⟩
  decide +kernel

end EntryPoint
