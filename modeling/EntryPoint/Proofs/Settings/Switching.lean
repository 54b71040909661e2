/-
# Words that switch an option

A run that sets a switch switches it on for three words, in capitals or not, and
off for any other text. Merging the same text as an override reads six words for
each of the two, and rejects all other texts. So the two agree on the words for
off and on those three words. For the other words for on a run stores the
opposite, and it stores off for texts that stand for neither.

## Main definitions

* `MergesTo`, `StoresTruth` - what merging a text gives, and what a run stores for a switch.
* `Agrees` - a run stores for a switch what merging the same text gives.

## Main results

* `mergesTo_iff`, `exists_merge_eq_error_iff` - what merging a text gives a switch.
* `storesTruth_of_switch` - what a run stores for a switch.
* `run_agrees_iff` - for which texts a run agrees with merging.
-/

import EntryPoint.Proofs.Settings.Setting

namespace EntryPoint

open Document Session Text

variable {world ready : World} {key : OptionKey} {value : String} {truth : Bool}
  {settings : Settings}

/-! ### Merging a text -/

/-- Merging a text as the only override gives a switch a truth value. -/
def MergesTo (key : OptionKey) (value : String) (truth : Bool) : Prop :=
  ∃ merged, Options.merge (.overrides [(key.name, .text value)]) = .ok merged ∧
    merged.options.get key = .truth truth

theorem readTruth_text_eq_ok_iff : readTruth (.text value) = .ok truth ↔
    lowerAscii value ∈ if truth then trueWords else falseWords := by
  have apart : ∀ word ∈ trueWords, word ∉ falseWords := by decide
  unfold readTruth
  dsimp only
  rw [← List.elem_eq_contains, ← List.elem_eq_contains]
  -- The words for off are looked through first, but no word is among both.
  by_cases off : lowerAscii value ∈ falseWords
  · rw [if_pos (List.elem_eq_true_of_mem off)]
    cases truth with
    | false => exact iff_of_true rfl off
    | true => exact iff_of_false nofun fun on => apart _ on off
  · rw [if_neg (mt List.mem_of_elem_eq_true off)]
    by_cases on : lowerAscii value ∈ trueWords
    · rw [if_pos (List.elem_eq_true_of_mem on)]
      cases truth with
      | false => exact iff_of_false nofun off
      | true => exact iff_of_true rfl on
    · rw [if_neg (mt List.mem_of_elem_eq_true on)]
      cases truth with
      | false => exact iff_of_false nofun off
      | true => exact iff_of_false nofun on

theorem read_switch (switch : key.isName = false) (value : Value) :
    key.read value = Setting.truth <$> readTruth value := by
  rw [OptionKey.read, switch]
  rfl

section Single

variable (switch : key.isName = false)
include switch

theorem readTruth_of_merge {value : Value} {merged : GivenOptions}
    (accepted : Options.merge (.overrides [(key.name, value)]) = .ok merged) :
    Setting.truth <$> readTruth value = .ok (merged.options.get key) := by
  have distinct : ([(key.name, value)].map Prod.fst).Nodup := List.nodup_singleton _
  have read := Options.reading_of_merge distinct accepted key
  rw [Overrides.reading, List.lookup_cons_self] at read
  exact (read_switch switch value).symm.trans read

/-- One text is merged as its switch reads it. -/
theorem mergesTo_iff :
    MergesTo key value truth ↔ lowerAscii value ∈ if truth then trueWords else falseWords := by
  rw [← readTruth_text_eq_ok_iff]
  constructor
  · rintro ⟨merged, accepted, same⟩
    have read := readTruth_of_merge switch accepted
    rw [same] at read
    cases found : readTruth (.text value) with
    | error kind =>
      rw [found] at read
      cases read
    | ok other =>
      rw [found] at read
      cases read
      rfl
  · intro found
    have read : key.read (.text value) = .ok (.truth truth) := by
      rw [read_switch switch, found]
      rfl
    have distinct : ([(key.name, Value.text value)].map Prod.fst).Nodup := List.nodup_singleton _
    obtain ⟨merged, accepted⟩ :=
      (Options.exists_merge_eq_ok_iff distinct).mpr (Overrides.fit_nil.insert read)
    have same := readTruth_of_merge switch accepted
    rw [found] at same
    exact ⟨merged, accepted, (Except.ok.inj same).symm⟩

/-- One text is rejected if it is a word for neither. -/
theorem exists_merge_eq_error_iff :
    (∃ rejection, Options.merge (.overrides [(key.name, .text value)]) = .error rejection) ↔
      lowerAscii value ∉ falseWords ++ trueWords := by
  rw [List.mem_append, not_or]
  -- Merging fails for exactly the texts that merge to neither truth.
  cases accepted : Options.merge (.overrides [(key.name, .text value)]) with
  | error rejection =>
    have unmerged (truth : Bool) : ¬MergesTo key value truth := by
      rintro ⟨merged, accepted', -⟩
      cases accepted.symm.trans accepted'
    simp only [mergesTo_iff switch] at unmerged
    exact iff_of_true ⟨rejection, rfl⟩ ⟨unmerged false, unmerged true⟩
  | ok merged =>
    refine iff_of_false nofun ?_
    rintro ⟨off, on⟩
    have read := readTruth_of_merge switch accepted
    cases found : readTruth (.text value) with
    | error kind =>
      rw [found] at read
      cases read
    | ok truth =>
      have word := readTruth_text_eq_ok_iff.mp found
      cases truth with
      | false => exact off word
      | true => exact on word

end Single

/-! ### Storing a text -/

/-- A run ends well, and a switch has a truth value in the settings from then on. -/
def StoresTruth (ending : Except Fault Int × World) (key : OptionKey) (truth : Bool) : Prop :=
  ending.1 = .ok 0 ∧ ∃ settings, (outcome loadSettings ending.2).1 = .ok settings ∧
    settings.lookup key.name = some (.truth truth)

theorem StoresTruth.unique {ending : Except Fault Int × World} {other : Bool}
    (stores : StoresTruth ending key truth) (stores' : StoresTruth ending key other) :
    truth = other := by
  obtain ⟨-, settings, loaded, found⟩ := stores
  obtain ⟨-, settings', loaded', found'⟩ := stores'
  cases loaded.symm.trans loaded'
  cases found.symm.trans found'
  rfl

/-- Settings that are accepted still are with a switch set to any text. -/
theorem exists_merge_insert_of_switch (switch : key.isName = false) (value : String)
    (nodup : (settings.map Prod.fst).Nodup)
    (valid : ∃ merged, Options.merge (.overrides settings.toOverrides) = .ok merged) :
    ∃ merged, Options.merge (.overrides (Settings.toOverrides
      (Association.insert settings key.name (coerced key value)))) = .ok merged := by
  -- A switch is no name, so no value of it is refused.
  have unrefused : ¬Refused key.name value := by
    rw [refused_name_iff, switch]
    rintro ⟨⟨⟩, -⟩
  have fit := (Options.exists_merge_eq_ok_iff (Settings.nodup_toOverrides nodup)).mp valid
  have distinct : ((Association.insert settings key.name (coerced key value)).map
      Prod.fst).Nodup := Association.nodup_insert nodup
  rw [Options.exists_merge_eq_ok_iff (Settings.nodup_toOverrides distinct),
    Settings.toOverrides_insert]
  exact fit.insert (read_coerced unrefused)

section Run

variable {arguments : List String} {manner : Manner}
  (asked : Request.ofArguments arguments = .task manner (.setOption key.name value))
  (switch : key.isName = false) (loaded : outcome loadSettings world = (.ok settings, ready))
  (valid : ∃ merged, Options.merge (.overrides settings.toOverrides) = .ok merged)
include asked switch loaded valid

/-- A run that sets a switch stores whether the text is a word that switches on, whatever else it
may be. -/
theorem storesTruth_of_switch (vacant : ready.tree.item? world.settingsPlace ≠ some .directory) :
    StoresTruth (outcome (run arguments) world) key (onWords.contains (lowerAscii value)) := by
  obtain ⟨merged, accepted⟩ :=
    exists_merge_insert_of_switch switch value (nodup_of_outcome_loadSettings loaded) valid
  obtain ⟨done, ended, stored⟩ :=
    exists_outcome_setTask_of_merged (world.console arguments) loaded vacant accepted
  rw [outcome_run_of_set asked ended]
  refine ⟨rfl, _, stored, ?_⟩
  rw [Association.lookup_insert, if_pos rfl, coerced, switch]
  rfl

/-- Where a directory is in the way of the settings, a run neither ends well nor refuses. -/
theorem run_ne_of_occupied (occupied : ready.tree.item? world.settingsPlace = some .directory) :
    (outcome (run arguments) world).1 ≠ .ok 0 ∧ (outcome (run arguments) world).1 ≠ .ok 2 := by
  obtain ⟨merged, accepted⟩ :=
    exists_merge_insert_of_switch switch value (nodup_of_outcome_loadSettings loaded) valid
  obtain ⟨fault, stopped, failed, among, -⟩ :=
    exists_outcome_setTask_of_occupied (world.console arguments) loaded occupied accepted
  constructor <;> intro ended <;> cases code_eq_of_set asked failed among ended

end Run

/-! ### Agreement -/

/-- A run that sets a switch agrees with merging the same text: it stores a truth value exactly if
merging gives it, and a text that cannot be merged is refused with the code for misuse and leaves
the file of the settings as it was. -/
structure Agrees (world : World) (ending : Except Fault Int × World) (key : OptionKey)
    (value : String) : Prop where
  stores : ∀ truth, StoresTruth ending key truth ↔ MergesTo key value truth
  refuses : (∃ rejection, Options.merge (.overrides [(key.name, .text value)]) = .error rejection) →
    ending.1 = .ok 2 ∧ world.KeepsSettings ending.2

/-- What neither ends well nor refuses agrees with no text. -/
theorem not_agrees_of_ne {ending : Except Fault Int × World} (switch : key.isName = false)
    (unended : ending.1 ≠ .ok 0) (unrefused : ending.1 ≠ .ok 2) :
    ¬Agrees world ending key value := by
  intro agrees
  have unmerged (truth : Bool) : ¬MergesTo key value truth := fun merges =>
    unended ((agrees.stores truth).mpr merges).1
  simp only [mergesTo_iff switch] at unmerged
  -- Nothing is stored, so the text is a word for neither, and would have to be refused.
  have unlisted : lowerAscii value ∉ falseWords ++ trueWords := by
    rw [List.mem_append, not_or]
    exact ⟨unmerged false, unmerged true⟩
  exact unrefused (agrees.refuses ((exists_merge_eq_error_iff switch).mpr unlisted)).1

/-- A run that stores whether a text is a word that switches on agrees with merging for the words
for off and for these words, and for no others. -/
theorem agrees_iff_of_stores {ending : Except Fault Int × World} (switch : key.isName = false)
    (stores : StoresTruth ending key (onWords.contains (lowerAscii value))) :
    Agrees world ending key value ↔ lowerAscii value ∈ falseWords ++ onWords := by
  have stored (truth : Bool) :
      StoresTruth ending key truth ↔ onWords.contains (lowerAscii value) = truth :=
    ⟨stores.unique, fun same => same ▸ stores⟩
  constructor
  · intro agrees
    by_contra unlisted
    rw [List.mem_append, not_or] at unlisted
    obtain ⟨off, on⟩ := unlisted
    have switchedOff : onWords.contains (lowerAscii value) = false := by simpa using on
    -- What is stored is off, which merging gives for the words for off alone.
    have merged := (agrees.stores false).mp ((stored false).mpr switchedOff)
    exact off ((mergesTo_iff switch).mp merged)
  · intro listed
    have known : ∀ word ∈ falseWords ++ onWords, word ∈ falseWords ++ trueWords := by decide
    have same : ∀ word ∈ falseWords ++ onWords, ∀ truth : Bool,
        (onWords.contains word = truth ↔ word ∈ if truth then trueWords else falseWords) := by
      decide
    refine ⟨fun truth => ?_, fun rejected => ?_⟩
    · rw [stored, mergesTo_iff switch]
      exact same _ listed truth
    · exact absurd (known _ listed) ((exists_merge_eq_error_iff switch).mp rejected)

/-- With settings that are accepted, a run that sets a switch ends well whatever the text is, and
stores whether it is one of three words, unless a directory is in the way of the settings. So it
agrees with merging the text exactly if none is, and the text, in small letters, is a word for off
or one of those three. -/
theorem run_agrees_iff {arguments : List String} {manner : Manner}
    (asked : Request.ofArguments arguments = .task manner (.setOption key.name value))
    (switch : key.isName = false) (loaded : outcome loadSettings world = (.ok settings, ready))
    (valid : ∃ merged, Options.merge (.overrides settings.toOverrides) = .ok merged) :
    (ready.tree.item? world.settingsPlace ≠ some .directory →
      StoresTruth (outcome (run arguments) world) key (onWords.contains (lowerAscii value))) ∧
    (Agrees world (outcome (run arguments) world) key value ↔
      ready.tree.item? world.settingsPlace ≠ some .directory ∧
        lowerAscii value ∈ falseWords ++ onWords) := by
  refine ⟨storesTruth_of_switch asked switch loaded valid, ?_⟩
  by_cases vacant : ready.tree.item? world.settingsPlace = some .directory
  · obtain ⟨unended, unrefused⟩ := run_ne_of_occupied asked switch loaded valid vacant
    exact iff_of_false (not_agrees_of_ne switch unended unrefused) fun listed => listed.1 vacant
  · rw [agrees_iff_of_stores switch (storesTruth_of_switch asked switch loaded valid vacant)]
    exact (and_iff_right vacant).symm

/-- A word for on in capitals switches on either way. -/
theorem run_agrees_yes :
    StoresTruth (outcome (run ["config", "set", "runnable", "YES"]) freshHome) .runnable true ∧
      Agrees freshHome (outcome (run ["config", "set", "runnable", "YES"]) freshHome) .runnable
        "YES" := by
  have asked : Request.ofArguments ["config", "set", "runnable", "YES"] =
      .task {} (.setOption OptionKey.runnable.name "YES") := by rfl
  have small : lowerAscii "YES" = "yes" := by decide +kernel
  obtain ⟨stores, agrees⟩ := run_agrees_iff asked rfl outcome_loadSettings_freshHome ⟨_, rfl⟩
  rw [small] at stores agrees
  exact ⟨stores vacant_settingsPlace_freshHome,
    agrees.mpr ⟨vacant_settingsPlace_freshHome, by decide⟩⟩

/-- In a home without settings, a run stores for a switch whether the text is one of three words. -/
theorem storesTruth_freshHome {word : String} (small : lowerAscii word = word)
    (asked : Request.ofArguments ["config", "set", "runnable", word] =
      .task {} (.setOption OptionKey.runnable.name word)) :
    StoresTruth (outcome (run ["config", "set", "runnable", word]) freshHome) .runnable
      (onWords.contains word) := by
  have stores := storesTruth_of_switch asked rfl outcome_loadSettings_freshHome ⟨_, rfl⟩
    vacant_settingsPlace_freshHome
  rwa [small] at stores

/-- One word for on is stored as off, and so is a word that cannot be merged. -/
theorem run_stores_opposite :
    (StoresTruth (outcome (run ["config", "set", "runnable", "on"]) freshHome) .runnable false ∧
      MergesTo .runnable "on" true ∧
      ¬Agrees freshHome (outcome (run ["config", "set", "runnable", "on"]) freshHome) .runnable
        "on") ∧
    StoresTruth (outcome (run ["config", "set", "runnable", "maybe"]) freshHome) .runnable false ∧
      (∃ rejection, Options.merge (.overrides [("runnable", .text "maybe")]) = .error rejection) ∧
      ¬Agrees freshHome (outcome (run ["config", "set", "runnable", "maybe"]) freshHome) .runnable
        "maybe" := by
  have on : lowerAscii "on" = "on" := by decide +kernel
  have maybe : lowerAscii "maybe" = "maybe" := by decide +kernel
  have switchesOff := storesTruth_freshHome on (by rfl)
  have storesOff := storesTruth_freshHome maybe (by rfl)
  have merges : MergesTo .runnable "on" true := by
    rw [mergesTo_iff rfl, on]
    decide
  have notWord : lowerAscii "maybe" ∉ falseWords ++ trueWords := by
    rw [maybe]
    decide
  have rejected :
      ∃ rejection, Options.merge (.overrides [(OptionKey.runnable.name, .text "maybe")]) =
        .error rejection :=
    (exists_merge_eq_error_iff rfl).mpr notWord
  refine ⟨⟨switchesOff, merges, fun agrees => ?_⟩, storesOff, rejected, fun agrees => ?_⟩
  · cases switchesOff.unique ((agrees.stores true).mpr merges)
  · have refused := (agrees.refuses rejected).1
    cases storesOff.1.symm.trans refused

end EntryPoint
