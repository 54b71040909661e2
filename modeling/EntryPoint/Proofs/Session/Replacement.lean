/-
# Files that are written whole or not at all

A file that is replaced is written under another name first, and takes its place
by a move. So wherever the replacement stops, either the file holds the new text
or no file has changed: the draft is gone.

## Main definitions

* `FileTree.Written`, `World.Written` - one file holds new bytes.
* `World.AllOrNothing` - one file was written, or none.

## Main results

* `World.AllOrNothing.bind` - writing after preparations.
* `allOrNothing_replaceFile` - replacing a file.
-/

import EntryPoint.Proofs.Session.Preparation

namespace EntryPoint

open Session

/-! ### Trees -/

namespace FileTree

variable {before between after tree : FileTree} {place start goal : List String}
  {bytes : List UInt8}

/-- A file at a place holds the bytes. Elsewhere a directory may stand where nothing stood, and
nothing else has changed. -/
structure Written (before after : FileTree) (place : List String) (bytes : List UInt8) : Prop where
  holds : after.item? place = some (.file bytes)
  vacant : before.item? place ≠ some .directory
  elsewhere : ∀ other, other ≠ place → after.item? other = before.item? other ∨
    before.item? other = none ∧ after.item? other = some .directory

theorem Written.of_item? (holds : after.item? place = some (.file bytes))
    (vacant : before.item? place ≠ some .directory)
    (same : ∀ other, other ≠ place → after.item? other = before.item? other) :
    before.Written after place bytes :=
  ⟨holds, vacant, fun other apart => .inl (same other apart)⟩

/-- Directories may have been made before a file is written. -/
theorem Grown.written (grown : before.Grown between)
    (written : between.Written after place bytes) : before.Written after place bytes where
  holds := written.holds
  vacant stands := written.vacant (grown.directory stands)
  elsewhere other apart := by
    rcases written.elsewhere other apart with same | ⟨missing, stands⟩
    · rw [same]
      exact grown other
    · rcases grown other with same | ⟨-, stood⟩
      · exact .inr ⟨same ▸ missing, stands⟩
      · cases missing.symm.trans stood

/-- And after it. -/
theorem Written.grown (written : before.Written between place bytes)
    (grown : between.Grown after) : before.Written after place bytes where
  holds := grown.file_iff.mpr written.holds
  vacant := written.vacant
  elsewhere other apart := by
    rcases grown other with same | ⟨missing, stands⟩
    · rw [same]
      exact written.elsewhere other apart
    · rcases written.elsewhere other apart with same | ⟨-, stood⟩
      · exact .inr ⟨same ▸ missing, stands⟩
      · cases missing.symm.trans stood

/-- Files at other places stay as they are. -/
theorem Written.file_iff (written : before.Written after place bytes) {other : List String}
    (apart : other ≠ place) {held : List UInt8} :
    after.item? other = some (.file held) ↔ before.item? other = some (.file held) := by
  rcases written.elsewhere other apart with same | ⟨missing, stands⟩
  · rw [same]
  · rw [missing, stands]
    exact iff_of_false (fun same => by cases same) (fun same => by cases same)

/-- The root is a directory. -/
theorem ne_nil_of_item? (vacant : tree.item? place ≠ some .directory) : place ≠ [] := by
  rintro rfl
  exact vacant rfl

theorem written_put (vacant : tree.item? place ≠ some .directory) :
    tree.Written (tree.put place (.file bytes)) place bytes := by
  have proper : place ≠ [] := ne_nil_of_item? vacant
  refine .of_item? ?_ vacant fun other apart => ?_
  · rw [item?_put proper, if_pos rfl]
  · rw [item?_put proper, if_neg apart]

theorem write_eq_ok_iff : tree.write bytes place = .ok after ↔
    tree.item? place ≠ some .directory ∧ after = tree.put place (.file bytes) := by
  unfold write
  split
  · rename_i stands
    simp [stands]
  · rename_i vacant
    constructor
    · rintro ⟨⟩
      exact ⟨vacant, rfl⟩
    · rintro ⟨-, rfl⟩
      rfl

/-! ### Drafts -/

section Draft

variable (free : tree.item? start = none)
include free

theorem ne_nil_of_free : start ≠ [] := by
  rintro rfl
  cases free

theorem item?_put_draft (other : List String) :
    (tree.put start (.file bytes)).item? other =
      if other = start then some (.file bytes) else tree.item? other :=
  item?_put (ne_nil_of_free free)

/-- Where the draft stands nothing stood, so that no directory vanishes. -/
theorem directory_put_draft {other : List String} (stands : tree.item? other = some .directory) :
    (tree.put start (.file bytes)).item? other = some .directory := by
  rw [item?_put_draft free, if_neg, stands]
  rintro rfl
  cases free.symm.trans stands

/-- A draft that is removed leaves nothing behind. -/
theorem item?_clear_put (other : List String) :
    ((tree.put start (.file bytes)).clear start).item? other = tree.item? other := by
  rw [item?_clear (ne_nil_of_free free), item?_put_draft free]
  split
  · rename_i same
    rw [same, free]
  · rfl

/-- A draft that takes its place has been written there. -/
theorem written_of_move (moved : (tree.put start (.file bytes)).move start goal = .ok after) :
    tree.Written after goal bytes := by
  unfold move read at moved
  rw [item?_put_draft free, if_pos rfl] at moved
  simp only [bind, Except.bind] at moved
  split at moved
  · cases moved
  · rename_i vacant
    cases moved
    have proper : goal ≠ [] := ne_nil_of_item? vacant
    -- The draft is no directory, so that one at the goal would have stood before it.
    have vacant : tree.item? goal ≠ some .directory := by
      intro stands
      have apart : goal ≠ start := by
        rintro rfl
        cases free.symm.trans stands
      rw [item?_put_draft free, if_neg apart] at vacant
      exact vacant stands
    refine .of_item? ?_ vacant fun other apart => ?_
    · rw [item?_put proper, if_pos rfl]
    · rw [item?_put proper, if_neg apart, item?_clear_put free]

end Draft

end FileTree

/-! ### Worlds -/

namespace World

variable {α β : Type} {before between after : World} {place : List String} {bytes : List UInt8}

/-- A file at a place holds the bytes. Directories may have been made, the input may have been read,
and there may be diagnostics; all else is as it was. -/
structure Written (before after : World) (place : List String) (bytes : List UInt8) : Prop where
  tree : before.tree.Written after.tree place bytes
  same : ∃ input diagnostics, after = { before with tree := after.tree, input, diagnostics }

theorem Grown.written (grown : before.Grown between)
    (written : between.Written after place bytes) : before.Written after place bytes := by
  refine ⟨grown.tree.written written.tree, ?_⟩
  obtain ⟨-, _, _, here⟩ := grown
  obtain ⟨-, input, diagnostics, further⟩ := written
  rw [here] at further
  exact ⟨input, diagnostics, further⟩

theorem Written.grown (written : before.Written between place bytes)
    (grown : between.Grown after) : before.Written after place bytes := by
  refine ⟨written.tree.grown grown.tree, ?_⟩
  obtain ⟨-, _, _, here⟩ := written
  obtain ⟨-, input, diagnostics, further⟩ := grown
  rw [here] at further
  exact ⟨input, diagnostics, further⟩

theorem Written.output_eq (written : before.Written after place bytes) :
    after.output = before.output := by
  obtain ⟨-, _, _, same⟩ := written
  rw [same]

/-- What a session comes to that writes one file: it is written, or something unforeseen stopped the
session before. -/
inductive AllOrNothing (before : World) (place : List String) (bytes : List UInt8) :
    Except Fault α × World → Prop
  | all (value : α) {after : World} (written : before.Written after place bytes) :
    AllOrNothing before place bytes (.ok value, after)
  | nothing {fault : Fault} (among : fault.Among []) {after : World} (grown : before.Grown after) :
    AllOrNothing before place bytes (.error fault, after)

theorem Grown.allOrNothing (grown : before.Grown between) {ending : Except Fault α × World}
    (either : between.AllOrNothing place bytes ending) :
    before.AllOrNothing place bytes ending := by
  cases either with
  | all value written => exact .all value (grown.written written)
  | nothing among further => exact .nothing among (grown.trans further)

/-- Preparations do not matter. -/
theorem AllOrNothing.bind {session : Session α} {next : α → Session β}
    (prepares : Prepares [] session)
    (writes : ∀ value ready, before.Grown ready →
      ready.AllOrNothing place bytes (outcome (next value) ready)) :
    before.AllOrNothing place bytes (outcome (session >>= next) before) := by
  rcases found : outcome session before with ⟨fault | value, ready⟩
  · rw [outcome_bind_of_error found]
    exact .nothing (prepares.among_of_outcome found) (prepares.grown_of_outcome found)
  · have grown := prepares.grown_of_outcome found
    rw [outcome_bind_of_ok found]
    exact grown.allOrNothing (writes value ready grown)

end World

/-! ### Operations of the host -/

variable {world : World} {path source target directory : Path} {place start : List String}

theorem outcome_writeFile (path : Path) (bytes : List UInt8) :
    outcome (Host.writeFile path bytes : Session Unit) world =
      match world.tree.locate world.directory path >>= fun place =>
        world.tree.write bytes place with
      | .ok tree => (.ok (), { world with tree })
      | .error kind => (.error (.unforeseen kind), world) :=
  outcome_change path fun tree => tree.write bytes

/-- A draft is written where nothing stood, or nothing is written. -/
theorem outcome_createFile_cases {opening ending : String}
    (parts : ∀ n, Path.IsPart (FileTree.numberedName opening ending n)) (bytes : List UInt8) :
    (∃ kind, outcome (Host.createFile directory opening ending bytes) world =
      (.error (.unforeseen kind), world)) ∨
    ∃ draft place, world.tree.item? place = none ∧
      world.tree.locate world.directory draft = .ok place ∧
      outcome (Host.createFile directory opening ending bytes) world =
        (.ok draft, { world with tree := world.tree.put place (.file bytes) }) := by
  change (∃ kind, outcome (createFile directory opening ending bytes) world = _) ∨
    ∃ draft place, _ ∧ _ ∧ outcome (createFile directory opening ending bytes) world = _
  unfold createFile
  -- A path that leads nowhere stops before anything is written.
  cases leads : world.tree.locate world.directory directory with
  | error kind =>
    have located : outcome (locate directory) world = (.error (.unforeseen kind), world) := by
      rw [outcome_locate, leads]
      rfl
    exact .inl ⟨kind, outcome_bind_of_error located⟩
  | ok place =>
    have located : outcome (locate directory) world = (.ok place, world) := by
      rw [outcome_locate, leads]
      rfl
    rw [outcome_bind_of_ok located, outcome_bind_of_ok outcome_get]
    dsimp only
    -- The name is free and one part, so that it leads to a vacant place in the directory.
    obtain ⟨n, numbered⟩ := world.tree.exists_freshName_eq place opening ending
    have part : Path.IsPart (world.tree.freshName place opening ending) := numbered ▸ parts n
    have free := world.tree.item?_freshName place opening ending
    generalize world.tree.freshName place opening ending = fresh at part free
    cases further : world.tree.locate world.directory (directory.child fresh) with
    | error kind =>
      have refused : outcome (change (directory.child fresh) fun tree => tree.write bytes) world =
          (.error (.unforeseen kind), world) := by
        rw [outcome_change, further]
        rfl
      exact .inl ⟨kind, outcome_bind_of_error refused⟩
    | ok other =>
      obtain rfl : other = place ++ [fresh] := by
        rw [FileTree.eq_destination_of_locate further, FileTree.eq_destination_of_locate leads,
          part.destination_child]
      have written : outcome (change (directory.child fresh) fun tree => tree.write bytes) world =
          (.ok (), { world with tree := world.tree.put (place ++ [fresh]) (.file bytes) }) := by
        rw [outcome_change, further]
        simp only [bind, Except.bind, FileTree.write, free]
      exact .inr ⟨directory.child fresh, place ++ [fresh], free, further,
        by rw [outcome_bind_of_ok written, outcome_pure]⟩

/-- A file is moved to the place of a path, or nothing changes. -/
theorem outcome_moveFile_cases (leads : world.tree.locate world.directory source = .ok start)
    (target : Path) :
    (∃ kind, outcome (Host.moveFile source target) world = (.error (.unforeseen kind), world)) ∨
    ∃ tree, world.tree.move start (target.destination world.directory) = .ok tree ∧
      outcome (Host.moveFile source target) world = (.ok (), { world with tree }) := by
  -- The source is located first, so that only the target can be refused.
  have located : outcome (locate source) world = (.ok start, world) := by
    rw [outcome_locate, leads]
    rfl
  change (∃ kind, outcome (moveFile source target) world = _) ∨
    ∃ tree, _ ∧ outcome (moveFile source target) world = _
  unfold moveFile
  rw [outcome_bind_of_ok located]
  split
  · rw [outcome_change]
    cases done : world.tree.locate world.directory target >>= fun place =>
        world.tree.move start place with
    | error kind => exact .inl ⟨kind, rfl⟩
    | ok tree =>
      obtain ⟨goal, further, moved⟩ := bind_eq_ok_iff.mp done
      obtain rfl := FileTree.eq_destination_of_locate further
      exact .inr ⟨tree, moved, rfl⟩
  · exact .inl ⟨.refused, outcome_orUnforeseen _⟩

/-! ### Replacing a file -/

/-- A file that is replaced holds the new text, or no file has changed: the draft is gone again. -/
theorem allOrNothing_replaceFile (slashless : '/' ∉ path.name.toList) (text : String)
    (world : World) : world.AllOrNothing (path.destination world.directory) (Text.utf8Bytes text)
      (outcome (replaceFile path text) world) := by
  refine .bind (prepares_makeDirectories _) fun _ ready grown => ?_
  rw [← grown.directory_eq]
  obtain ⟨kind, refused⟩ | ⟨draft, start, free, leads, created⟩ :=
    outcome_createFile_cases (isPart_draft slashless) (Text.utf8Bytes text)
  · rw [outcome_bind_of_error refused]
    exact .nothing (.unforeseen kind) (.refl ready)
  rw [outcome_bind_of_ok created, outcome_tryCatch]
  -- From here on the draft stands: it takes the place of the file, or it is removed.
  let drafted : World :=
    { ready with tree := ready.tree.put start (.file (Text.utf8Bytes text)) }
  -- It stands where nothing stood, so that its path still leads there.
  have leads : drafted.tree.locate drafted.directory draft = .ok start :=
    FileTree.locate_of_directories (fun _ => FileTree.directory_put_draft free) leads
  obtain ⟨kind, refused⟩ | ⟨tree, moved, done⟩ := outcome_moveFile_cases leads path
  · have removed : outcome (Host.removeFile draft) drafted =
        (.ok (), { drafted with tree := drafted.tree.clear start }) := by
      have holds : drafted.tree.item? start = some (.file (Text.utf8Bytes text)) :=
        (FileTree.item?_put_draft free start).trans (if_pos rfl)
      change outcome (change draft FileTree.remove) drafted = _
      rw [outcome_change, leads]
      simp only [bind, Except.bind, FileTree.remove, FileTree.read, holds]
      rfl
    rw [refused]
    dsimp only
    rw [outcome_bind, outcome_tryCatch, removed]
    exact .nothing (.unforeseen kind) ⟨fun place => .inl (FileTree.item?_clear_put free place),
      ready.input, ready.diagnostics, rfl⟩
  · rw [done]
    exact .all () ⟨FileTree.written_of_move free moved, ready.input, ready.diagnostics, rfl⟩

end EntryPoint
