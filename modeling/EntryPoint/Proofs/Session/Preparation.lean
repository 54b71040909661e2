/-
# Sessions that only prepare

To find out what it needs, the program makes directories where they are missing,
reads from the input and reports to its user. It writes neither files nor output
before it has everything. Such sessions follow each other and handle each other's
faults without ceasing to be such sessions.

## Main definitions

* `FileTree.Grown`, `World.Grown` - at most directories were made, and streams used.
* `Session.Prepares` - a session that comes to no more, whatever stops it.

## Main results

* `FileTree.Grown.file_iff` - the files stay as they are.
* `Session.Prepares.bind`, `Session.Prepares.tryCatch` - such sessions together.
* `prepares_makeDirectories`, `prepares_readTextFile` - what the operations on files come to.
-/

import EntryPoint.Proofs.Failure
import EntryPoint.Proofs.Session.Files

namespace EntryPoint

open Session

/-! ### Trees -/

namespace FileTree

variable {before between after : FileTree} {place : List String} {bytes : List UInt8}

/-- Where nothing stood a directory may stand now, and nothing else has changed. -/
def Grown (before after : FileTree) : Prop :=
  ∀ place, after.item? place = before.item? place ∨
    before.item? place = none ∧ after.item? place = some .directory

namespace Grown

theorem refl (tree : FileTree) : tree.Grown tree := fun _ => .inl rfl

theorem trans (first : before.Grown between) (second : between.Grown after) :
    before.Grown after := by
  intro place
  rcases first place with same | ⟨vacant, stands⟩
  · rw [← same]
    exact second place
  · rcases second place with same | ⟨missing, -⟩
    · exact .inr ⟨vacant, same.trans stands⟩
    · cases missing.symm.trans stands

/-- The files stay as they are. -/
theorem file_iff (grown : before.Grown after) :
    after.item? place = some (.file bytes) ↔ before.item? place = some (.file bytes) := by
  rcases grown place with same | ⟨vacant, stands⟩
  · rw [same]
  · rw [vacant, stands]
    exact iff_of_false (fun same => by cases same) (fun same => by cases same)

/-- No directory vanishes. -/
theorem directory (grown : before.Grown after) (stands : before.item? place = some .directory) :
    after.item? place = some .directory := by
  rcases grown place with same | ⟨-, stands⟩
  · exact same.trans stands
  · exact stands

end Grown

/-- A directory is made only where nothing stands. -/
theorem grown_of_makeDirectory (made : before.makeDirectory place = .ok after) :
    before.Grown after := by
  intro other
  unfold makeDirectory at made
  cases stands : before.item? place with
  | some item =>
    rw [stands] at made
    cases made
  | none =>
    rw [stands] at made
    cases made
    -- The root stands in every tree, so that a place that is made is another one.
    have proper : place ≠ [] := by
      rintro rfl
      cases stands
    rw [item?_put proper]
    split
    · rename_i same
      exact .inr ⟨same ▸ stands, rfl⟩
    · exact .inl rfl

end FileTree

/-! ### Worlds -/

/-- Directories may have been made, the input may have been read, and there may be diagnostics; all
else is as it was. -/
structure World.Grown (before after : World) : Prop where
  tree : before.tree.Grown after.tree
  same : ∃ input diagnostics, after = { before with tree := after.tree, input, diagnostics }

namespace World.Grown

variable {before between after : World}

theorem refl (world : World) : world.Grown world :=
  ⟨.refl world.tree, world.input, world.diagnostics, rfl⟩

theorem trans (first : before.Grown between) (second : between.Grown after) :
    before.Grown after := by
  refine ⟨first.tree.trans second.tree, ?_⟩
  obtain ⟨-, _, _, here⟩ := first
  obtain ⟨-, input, diagnostics, further⟩ := second
  rw [here] at further
  exact ⟨input, diagnostics, further⟩

/-- More diagnostics do not matter. -/
theorem report (world : World) (diagnostics : String) :
    world.Grown { world with diagnostics } :=
  ⟨.refl world.tree, world.input, diagnostics, rfl⟩

/-- Nothing has been written to the output. -/
theorem output_eq (grown : before.Grown after) : after.output = before.output := by
  obtain ⟨-, _, _, same⟩ := grown
  rw [same]

theorem directory_eq (grown : before.Grown after) : after.directory = before.directory := by
  obtain ⟨-, _, _, same⟩ := grown
  rw [same]

theorem moment_eq (grown : before.Grown after) : after.moment = before.moment := by
  obtain ⟨-, _, _, same⟩ := grown
  rw [same]

theorem environment_eq (grown : before.Grown after) : after.environment = before.environment := by
  obtain ⟨-, _, _, same⟩ := grown
  rw [same]

end World.Grown

/-! ### Sessions -/

namespace Session

variable {α β : Type} {kinds more : List FailureKind} {session : Session α}
  {next : α → Session β} {kind : FailureKind} {world : World}

/-- A session that does no more to its world than directories, the input and diagnostics. What stops
it is a failure of one of some kinds, or not foreseen. -/
def Prepares (kinds : List FailureKind) (session : Session α) : Prop :=
  ∀ world : World, world.Grown (outcome session world).2 ∧
    StopsAmong kinds (outcome session world).1

namespace Prepares

theorem grown (prepares : Prepares kinds session) : world.Grown (outcome session world).2 :=
  (prepares world).1

theorem stops (prepares : Prepares kinds session) : StopsAmong kinds (outcome session world).1 :=
  (prepares world).2

/-- Whatever a session that prepares comes to, it leaves the files as they were. -/
theorem grown_of_outcome {result : Except Fault α} {after : World}
    (prepares : Prepares kinds session) (found : outcome session world = (result, after)) :
    world.Grown after := by
  have grown : world.Grown (outcome session world).2 := prepares.grown
  rwa [found] at grown

/-- Such a session is stopped by failures of its kinds, or by what is not foreseen. -/
theorem among_of_outcome {fault : Fault} {after : World} (prepares : Prepares kinds session)
    (found : outcome session world = (.error fault, after)) : fault.Among kinds := by
  have stops : StopsAmong kinds (outcome session world).1 := prepares.stops
  exact stops fault (congrArg Prod.fst found)

theorem mono (prepares : Prepares kinds session) (sub : kinds ⊆ more) : Prepares more session :=
  fun _ => ⟨prepares.grown, prepares.stops.mono sub⟩

/-- A session that leaves the world as it is. -/
theorem of_outcome {result : World → Except Fault α}
    (asks : ∀ world, outcome session world = (result world, world))
    (stops : ∀ world, StopsAmong kinds (result world)) : Prepares kinds session := by
  intro world
  rw [asks]
  exact ⟨.refl world, stops world⟩

/-- To ask the world changes nothing and does not fail. -/
theorem ask {question : World → α}
    (asks : ∀ world, outcome session world = (.ok (question world), world)) :
    Prepares kinds session :=
  .of_outcome asks fun world => .ok (question world)

theorem orStop {result : Except Fault α} (stops : StopsAmong kinds result) :
    Prepares kinds (EntryPoint.orStop result : Session α) :=
  .of_outcome (fun _ => outcome_orStop result) fun _ => stops

theorem pure (value : α) : Prepares kinds (Pure.pure value : Session α) :=
  .orStop (.ok value)

theorem stop (member : kind ∈ kinds) (message : String) :
    Prepares kinds (EntryPoint.stop kind message : Session α) :=
  .orStop (.fail member message)

/-- Sessions that follow each other: the second starts in a world that has only grown. -/
theorem bind (first : Prepares kinds session) (second : ∀ value, Prepares kinds (next value)) :
    Prepares kinds (session >>= next) := by
  intro world
  rcases found : outcome session world with ⟨fault | value, between⟩
  · rw [outcome_bind_of_error found]
    refine ⟨first.grown_of_outcome found, ?_⟩
    rintro fault ⟨⟩
    exact first.among_of_outcome found
  · rw [outcome_bind_of_ok found]
    exact ⟨(first.grown_of_outcome found).trans (second value).grown, (second value).stops⟩

/-- A handler takes faults of the same kinds, and starts in a world that has only grown. -/
theorem tryCatch {handler : Fault → Session α} (first : Prepares kinds session)
    (second : ∀ fault, fault.Among kinds → Prepares kinds (handler fault)) :
    Prepares kinds (tryCatch session handler) := by
  intro world
  rw [outcome_tryCatch]
  rcases found : outcome session world with ⟨fault | value, between⟩
  · have second := second fault (first.among_of_outcome found)
    exact ⟨(first.grown_of_outcome found).trans second.grown, second.stops⟩
  · exact ⟨first.grown_of_outcome found, .ok value⟩

/-- One session for each member of a list. -/
theorem mapM {step : α → Session β} {members : List α}
    (each : ∀ member, Prepares kinds (step member)) : Prepares kinds (members.mapM step) := by
  induction members with
  | nil => exact .pure []
  | cons first members ih =>
    rw [List.mapM_cons]
    exact .bind (each first) fun _ => .bind ih fun _ => .pure _

end Prepares

/-! ### Operations of the host -/

theorem prepares_directory : Prepares kinds (Host.directory : Session (List String)) :=
  .ask fun _ => outcome_directory

theorem prepares_environment? (name : String) :
    Prepares kinds (Host.environment? name : Session (Option String)) :=
  .ask fun _ => outcome_environment? name

theorem prepares_fetch (address : String) :
    Prepares kinds (Host.fetch address : Session (Except String Reply)) :=
  .ask fun _ => rfl

/-- Reading takes the input away, which is no file. -/
theorem prepares_readInput : Prepares kinds (Host.readInput : Session (Except String String)) := by
  intro world
  change world.Grown (outcome readInput world).2 ∧ StopsAmong kinds (outcome readInput world).1
  unfold readInput
  rw [outcome_bind_of_ok outcome_get]
  cases given : world.input with
  | error reason => exact ⟨.refl world, .ok _⟩
  | ok text => exact ⟨⟨.refl world.tree, .ok "", world.diagnostics, rfl⟩, .ok _⟩

/-- Diagnostics are no output. -/
theorem prepares_write_diagnostics (text : String) :
    Prepares kinds (Host.write .diagnostics text : Session Unit) := fun world =>
  ⟨⟨.refl world.tree, world.input, world.diagnostics ++ text, rfl⟩, .ok ()⟩

theorem prepares_readFile (path : Path) :
    Prepares kinds (Host.readFile path : Session (List UInt8)) := by
  change Prepares kinds do orUnforeseen ((← get).tree.read (← locate path))
  refine .bind (.ask fun _ => outcome_get) fun world => .bind ?_ fun place => ?_
  · exact .of_outcome (fun _ => outcome_locate path) fun _ => .mapError_unforeseen _
  · exact .orStop (.mapError_unforeseen _)

/-- A directory may be made, and its failure is not foreseen. -/
theorem prepares_makeDirectory (path : Path) :
    Prepares kinds (Host.makeDirectory path : Session Unit) := by
  intro world
  rw [outcome_makeDirectory]
  cases made : world.tree.locate world.directory path >>= world.tree.makeDirectory with
  | error kind => exact ⟨.refl world, .unforeseen kind⟩
  | ok tree =>
    obtain ⟨place, -, made⟩ := bind_eq_ok_iff.mp made
    exact ⟨⟨FileTree.grown_of_makeDirectory made, world.input, world.diagnostics, rfl⟩, .ok ()⟩

end Session

/-! ### Operations on files -/

variable {kinds : List FailureKind}

theorem prepares_isFile (path : Path) : Prepares kinds (isFile path) :=
  .ask fun _ => outcome_isFile path

theorem prepares_unlessDirectory (path : Path) {fault : Fault} (among : fault.Among kinds) :
    Prepares kinds (unlessDirectory path fault) := by
  refine .of_outcome (fun _ => outcome_unlessDirectory fault) fun world => ?_
  split
  · exact .ok ()
  · rintro _ ⟨⟩
    exact among

theorem prepares_ensureDirectory (path : Path) : Prepares kinds (ensureDirectory path) :=
  .tryCatch (prepares_makeDirectory path) fun _ => prepares_unlessDirectory path

/-- Directories are made from the first one that is missing on, from above. -/
theorem prepares_makeDirectoriesFrom (root : Root) (above : List String) :
    Prepares kinds (makeDirectoriesFrom root above) := by
  induction above with
  | nil => exact prepares_ensureDirectory _
  | cons name above ih =>
    -- Where the directory above is missing, it is made first and this one is tried again.
    refine .tryCatch (prepares_makeDirectory _) fun fault among => ?_
    split
    · exact .bind ih fun _ => prepares_ensureDirectory _
    · exact prepares_unlessDirectory _ among

/-- A directory is made with those above it, and nothing that stands is changed. -/
theorem prepares_makeDirectories (path : Path) : Prepares kinds (makeDirectories path) :=
  prepares_makeDirectoriesFrom path.root path.names.reverse

/-- A file is read as it stands. -/
theorem prepares_readTextFile (path : Path) : Prepares kinds (readTextFile path) :=
  .bind (prepares_readFile path) fun _ => .pure _

theorem prepares_modulesNamed (name : String) : Prepares kinds (modulesNamed name) :=
  .ask fun _ => outcome_modulesNamed name

end EntryPoint
