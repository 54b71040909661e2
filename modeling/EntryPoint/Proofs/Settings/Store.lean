/-
# Settings that are stored

The document of settings is read back as the same settings. So what was stored is
loaded, and as long as nothing has been stored there are no settings.

## Main definitions

* `World.Stores` - the settings that the file in the directory of the settings holds.

## Main results

* `Settings.readJson_documentText`, `Settings.read_document` - documents read back.
* `nodup_of_outcome_loadSettings` - settings that were loaded have each name once.
* `World.Stores.outcome_loadSettings` - what is stored is loaded.
* `World.IsSettingsDirectory.exists_outcome_saveSettings` - what is saved is stored.
-/

import EntryPoint.Proofs.Document.Json.Keys
import EntryPoint.Proofs.Settings.Place
import EntryPoint.Settings.Store

namespace EntryPoint

open Document Session

/-! ### The document -/

namespace Settings

variable {settings : Settings}

theorem toValue_eq (settings : Settings) :
    settings.toValue = .mapping (pairsOf settings.toOverrides) := by
  rw [toValue, pairsOf, toOverrides, List.map_map]
  rfl

theorem map_fst_toOverrides (settings : Settings) :
    settings.toOverrides.map Prod.fst = settings.map Prod.fst := by
  rw [toOverrides, List.map_map]
  rfl

theorem nodup_toOverrides (nodup : (settings.map Prod.fst).Nodup) :
    (settings.toOverrides.map Prod.fst).Nodup := by
  rwa [map_fst_toOverrides]

/-- What is written of settings reads back. -/
theorem readsBack_toValue (style : JsonStyle) (depth : Nat)
    (nodup : (settings.map Prod.fst).Nodup) : ReadsBack style depth settings.toValue := by
  rw [toValue_eq]
  refine .mapping (fun entry member => ?_) (nodup_toOverrides nodup)
  obtain ⟨⟨name, setting⟩, -, rfl⟩ := List.mem_map.mp member
  cases setting with
  | text text => exact .text _ text
  | truth truth => exact .truth _ truth

theorem readsBack_document (style : JsonStyle) (nodup : (settings.map Prod.fst).Nodup) :
    ReadsBack style 0 (.mapping [(.text key, settings.toValue)]) := by
  change ReadsBack style 0 (.mapping (pairsOf [(key, settings.toValue)]))
  refine .mapping (fun entry member => ?_) (List.nodup_singleton key)
  obtain rfl := List.mem_singleton.mp member
  exact readsBack_toValue style 1 nodup

/-- The document of settings is read as it was written. -/
theorem readJson_documentText (nodup : (settings.map Prod.fst).Nodup) :
    readJson settings.documentText = .ok (.mapping [(.text key, settings.toValue)]) :=
  readJson_writeJson (readsBack_document _ nodup) (by simp [IsBlank])

theorem carriage_notMem_documentText (nodup : (settings.map Prod.fst).Nodup) :
    '\r' ∉ settings.documentText.toList := by
  rw [documentText, String.toList_append, List.mem_append]
  rintro (member | absurd)
  · exact (readsBack_document _ nodup).unbroken member
  · revert absurd
    decide

theorem readPairs_pairsOf (settings : Settings) :
    readPairs (pairsOf settings.toOverrides) = .ok settings := by
  induction settings with
  | nil => rfl
  | cons first settings ih =>
    obtain ⟨name, setting⟩ := first
    have here : readSetting (Value.text name).plainText setting.toValue = .ok setting := by
      cases setting <;> rfl
    change readPairs ((.text name, setting.toValue) :: pairsOf (toOverrides settings)) = _
    rw [readPairs, here, ih]
    rfl

/-- Settings are read from their document. -/
theorem read_document (settings : Settings) :
    read (.mapping [(.text key, settings.toValue)]) = .ok settings := by
  have found : Value.lookup? key [(.text key, settings.toValue)] = some settings.toValue := rfl
  unfold read
  dsimp only
  rw [found, toValue_eq]
  dsimp only [Option.map_some, Option.getD_some, readValue]
  rw [readPairs_pairsOf]
  rfl

theorem map_fst_of_readPairs {pairs : List (Value × Value)}
    (read : readPairs pairs = .ok settings) :
    settings.map Prod.fst = pairs.map fun pair => pair.1.plainText := by
  induction pairs generalizing settings with
  | nil =>
    cases read
    rfl
  | cons first pairs ih =>
    obtain ⟨name, value⟩ := first
    rw [readPairs] at read
    split at read
    · rename_i setting others here there
      cases read
      rw [List.map_cons, List.map_cons, ih there]
    all_goals cases read

/-- The settings in a document that has each key once have each name once. -/
theorem nodup_of_read {document : Value} (keyed : document.Keyed)
    (read : read document = .ok settings) : (settings.map Prod.fst).Nodup := by
  obtain ⟨pairs, rfl⟩ : ∃ pairs, document = .mapping pairs := by
    cases document with
    | mapping pairs => exact ⟨pairs, rfl⟩
    | _ => cases read
  -- Where the document does not have the key, there are no settings; else its value has pairs.
  have keyed := keyed.lookupD key
  unfold Value.lookupD at keyed
  unfold Settings.read at read
  dsimp only at read
  cases found : Value.lookup? key pairs with
  | none =>
    rw [found] at read
    cases read
    exact List.nodup_nil
  | some value =>
    rw [found] at keyed read
    cases value with
    | mapping pairs =>
      obtain ⟨entries, rfl, nodup, -⟩ := keyed.exists_entries
      cases listed : readPairs (pairsOf entries) with
      | error violations =>
        rw [Option.map_some, Option.getD_some, readValue, listed] at read
        cases read
      | ok others =>
        rw [Option.map_some, Option.getD_some, readValue, listed] at read
        cases read
        rw [map_fst_of_readPairs listed]
        simpa [pairsOf, Function.comp_def, Value.plainText] using nodup
    | _ => cases read

end Settings

/-! ### The file -/

variable {world after : World} {directory : Path} {place : List String} {settings : Settings}

/-- What is read of a file has each key once. -/
theorem keyed_of_outcome_readJsonFile {path : Path} {value : Value}
    (read : outcome (readJsonFile path) world = (.ok (.ok value), after)) : value.Keyed := by
  obtain ⟨content, _, -, read⟩ := exists_of_outcome_bind_eq_ok read
  cases content with
  | error mistake => cases read
  | ok text =>
    rw [outcome_pure] at read
    cases found : readJson text with
    | error flaw => rw [found] at read; cases read
    | ok document =>
      rw [found] at read
      cases read
      exact readJson_keyed found

/-- Settings that were loaded have each name once. -/
theorem nodup_of_outcome_loadSettings
    -- From the path on: whether the file is there, what it holds, and what that says.
    (loaded : outcome loadSettings world = (.ok settings, after)) :
    (settings.map Prod.fst).Nodup := by
  obtain ⟨path, _, -, loaded⟩ := exists_of_outcome_bind_eq_ok loaded
  obtain ⟨stands, _, -, loaded⟩ := exists_of_outcome_bind_eq_ok loaded
  split at loaded
  · obtain ⟨content, _, found, loaded⟩ := exists_of_outcome_bind_eq_ok loaded
    split at loaded
    · rename_i others accepted
      cases loaded
      unfold Settings.ofContent at accepted
      obtain ⟨document, rfl, accepted⟩ := bind_eq_ok_iff.mp accepted
      -- The rejection is shown as a text, which changes nothing where there is none.
      have accepted : (Settings.read document).mapError Rejection.text = .ok settings := accepted
      cases read : Settings.read document with
      | error rejection => rw [read] at accepted; cases accepted
      | ok settings =>
        rw [read] at accepted
        cases accepted
        exact Settings.nodup_of_read (keyed_of_outcome_readJsonFile found) read
    · cases loaded
  · cases loaded
    exact List.nodup_nil

theorem isFileName_settings : IsFileName "config.json" :=
  ⟨by decide, by decide, by decide⟩

/-- The file in the directory of the settings holds settings: it is there with their document, or
it is missing and there are none. -/
structure World.Stores (world : World) (directory : Path) (place : List String)
    (settings : Settings) : Prop extends world.IsSettingsDirectory directory place where
  nodup : (settings.map Prod.fst).Nodup
  holds : world.tree.item? (place ++ ["config.json"]) =
      some (.file (Text.utf8Bytes settings.documentText)) ∨
    world.tree.item? (place ++ ["config.json"]) = none ∧ settings = []

namespace World.Stores

theorem leads_file (stores : world.Stores directory place settings) :
    world.tree.locate world.directory (directory.child "config.json") =
      .ok (place ++ ["config.json"]) :=
  isFileName_settings.locate_child stores.leads stores.stands

/-- What is stored is loaded. -/
theorem outcome_loadSettings (stores : world.Stores directory place settings) :
    outcome loadSettings world = (.ok settings, world) := by
  have file := stores.toIsSettingsDirectory.outcome_settingsFile
  unfold loadSettings
  rw [outcome_bind_of_ok file, outcome_bind_of_ok (outcome_isFile _)]
  -- Either the file is there with the document of the settings, or it is missing.
  rcases stores.holds with held | ⟨missing, rfl⟩
  · have kind : world.kind? (directory.child "config.json") = some .file := by
      rw [World.kind?, stores.leads_file]
      simp [held]
    have read : outcome (readJsonFile (directory.child "config.json")) world =
        (.ok (.ok (.mapping [(.text Settings.key, settings.toValue)])), world) := by
      unfold readJsonFile
      rw [outcome_bind_of_ok (outcome_readTextFile stores.leads_file held
        (Settings.carriage_notMem_documentText stores.nodup))]
      dsimp only
      rw [Settings.readJson_documentText stores.nodup]
      rfl
    have content : Settings.ofContent (.ok (.mapping [(.text Settings.key, settings.toValue)])) =
        .ok settings := by
      unfold Settings.ofContent
      simp only [bind, Except.bind, Settings.read_document]
      rfl
    rw [if_pos (decide_eq_true kind), outcome_bind_of_ok read, content]
    rfl
  · have kind : world.kind? (directory.child "config.json") ≠ some .file := by
      rw [World.kind?, stores.leads_file]
      simp [missing]
    rw [if_neg (by simpa using kind)]
    rfl

end World.Stores

/-- What is saved is stored, and nothing else changes. -/
theorem World.IsSettingsDirectory.exists_outcome_saveSettings
    (settled : world.IsSettingsDirectory directory place)
    (vacant : world.tree.item? (place ++ ["config.json"]) ≠ some .directory)
    (nodup : (settings.map Prod.fst).Nodup) :
    ∃ tree, outcome (saveSettings settings) world = (.ok (), { world with tree }) ∧
      ({ world with tree } : World).Stores directory place settings ∧
      ∀ other ≠ place ++ ["config.json"], tree.item? other = world.tree.item? other := by
  obtain ⟨tree, replaced, item?⟩ :=
    settled.toIsDirectory.exists_outcome_replaceFile isFileName_settings vacant
      settings.documentText
  -- Only the file changes, so every directory is still there.
  have elsewhere (other : List String) (apart : other ≠ place ++ ["config.json"]) :
      tree.item? other = world.tree.item? other := by
    rw [item?, if_neg apart]
  have kept (other : List String) (stands : world.tree.item? other = some .directory) :
      tree.item? other = some .directory := by
    rw [elsewhere other, stands]
    rintro rfl
    exact vacant stands
  refine ⟨tree, ?_, ?_, elsewhere⟩
  · unfold saveSettings
    rw [outcome_bind_of_ok settled.outcome_settingsFile, replaced]
  · exact ⟨settled.of_directories kept world.input world.output world.diagnostics, nodup,
      .inl ((item? _).trans (if_pos rfl))⟩

end EntryPoint
