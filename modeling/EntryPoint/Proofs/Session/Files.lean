/-
# Directories and files in a session

A directory that was made stands at its path, and making it again changes
nothing. A file that was replaced holds the new text, and nothing else has changed:
the file that was written for it under another name is gone.

## Main definitions

* `World.IsDirectory` - a path leads to a directory at a place.

## Main results

* `World.IsDirectory.outcome_makeDirectories` - making a directory that stands there.
* `exists_isDirectory_of_makeDirectories` - a directory that was made stands there.
* `World.IsDirectory.outcome_replaceFile` - replacing a file in a directory.
* `outcome_readTextFile` - reading what was written.
-/

import EntryPoint.Proofs.FileTree
import EntryPoint.Proofs.Session
import EntryPoint.Proofs.Text.Utf8

namespace EntryPoint

open Session

variable {world after : World} {path directory : Path} {place : List String} {name : String}

/-- A path leads to a place where a directory stands. -/
structure World.IsDirectory (world : World) (path : Path) (place : List String) : Prop where
  leads : world.tree.locate world.directory path = .ok place
  stands : world.tree.item? place = some .directory

/-- The kind of what stands at a place. -/
def Item.kind : Item → FileKind
  | .directory => .directory
  | .file _ => .file

theorem World.kind?_eq_some_iff {kind : FileKind} : world.kind? path = some kind ↔
    ∃ place item, world.tree.locate world.directory path = .ok place ∧
      world.tree.item? place = some item ∧ item.kind = kind := by
  unfold World.kind?
  cases world.tree.locate world.directory path with
  | error => exact iff_of_false (by rintro ⟨⟩) (by rintro ⟨_, _, ⟨⟩, -⟩)
  | ok place =>
    change (world.tree.item? place).map Item.kind = some kind ↔ _
    simp

theorem World.kind?_eq_directory_iff :
    world.kind? path = some .directory ↔ ∃ place, world.IsDirectory path place := by
  rw [World.kind?_eq_some_iff]
  constructor
  · rintro ⟨place, item, leads, stands, same⟩
    cases item with
    | directory => exact ⟨place, leads, stands⟩
    | file => cases same
  · rintro ⟨place, leads, stands⟩
    exact ⟨place, _, leads, stands, rfl⟩

theorem World.kind?_eq_file_iff : world.kind? path = some .file ↔
    ∃ place bytes, world.tree.locate world.directory path = .ok place ∧
      world.tree.item? place = some (.file bytes) := by
  rw [World.kind?_eq_some_iff]
  constructor
  · rintro ⟨place, item, leads, stands, same⟩
    cases item with
    | directory => cases same
    | file bytes => exact ⟨place, bytes, leads, stands⟩
  · rintro ⟨place, bytes, leads, stands⟩
    exact ⟨place, _, leads, stands, rfl⟩

/-! ### Making directories -/

theorem outcome_makeDirectory (path : Path) : outcome (Host.makeDirectory path) world =
    match world.tree.locate world.directory path >>= world.tree.makeDirectory with
    | .ok tree => (.ok (), { world with tree })
    | .error kind => (.error (.unforeseen kind), world) :=
  outcome_change path FileTree.makeDirectory

theorem outcome_unlessDirectory (fault : Fault) : outcome (unlessDirectory path fault) world =
    (if world.kind? path = some .directory then .ok () else .error fault, world) := by
  unfold unlessDirectory
  rw [outcome_bind, outcome_kind?]
  dsimp only
  split <;> rfl

/-- A directory that stands there cannot be made. -/
theorem World.IsDirectory.outcome_makeDirectory (standing : world.IsDirectory path place) :
    outcome (Host.makeDirectory path) world = (.error (.unforeseen .fileExists), world) := by
  rw [EntryPoint.outcome_makeDirectory, standing.leads]
  simp only [bind, Except.bind, FileTree.makeDirectory, standing.stands]

theorem World.IsDirectory.outcome_unlessDirectory (standing : world.IsDirectory path place)
    (fault : Fault) : outcome (unlessDirectory path fault) world = (.ok (), world) := by
  rw [EntryPoint.outcome_unlessDirectory,
    if_pos (World.kind?_eq_directory_iff.mpr ⟨place, standing⟩)]

/-- Making a directory that stands there changes nothing. -/
theorem World.IsDirectory.outcome_makeDirectories (standing : world.IsDirectory path place) :
    outcome (makeDirectories path) world = (.ok (), world) := by
  obtain ⟨root, names⟩ := path
  unfold makeDirectories
  dsimp only
  -- The names are walked from the last one, which is the directory itself.
  cases reversed : names.reverse with
  | nil =>
    obtain rfl := List.reverse_eq_nil_iff.mp reversed
    rw [makeDirectoriesFrom, ensureDirectory, outcome_tryCatch, standing.outcome_makeDirectory]
    exact standing.outcome_unlessDirectory _
  | cons name above =>
    obtain rfl : names = (name :: above).reverse := List.reverse_eq_iff.mp reversed
    rw [makeDirectoriesFrom, outcome_tryCatch, standing.outcome_makeDirectory]
    exact standing.outcome_unlessDirectory _

/-- A directory that is made stands at the place of its path. -/
theorem exists_isDirectory_of_makeDirectory
    (made : outcome (Host.makeDirectory path) world = (.ok (), after)) :
    ∃ place, after.IsDirectory path place := by
  rw [outcome_makeDirectory] at made
  cases leads : world.tree.locate world.directory path with
  | error kind => rw [leads] at made; cases made
  | ok place =>
    rw [leads] at made
    simp only [bind, Except.bind, FileTree.makeDirectory] at made
    cases stands : world.tree.item? place with
    | some item => rw [stands] at made; cases made
    | none =>
      rw [stands] at made
      cases made
      have proper : place ≠ [] := by
        rintro rfl
        cases stands
      -- Nothing stood at the place, so that no directory vanished.
      have kept (other : List String) (directory : world.tree.item? other = some .directory) :
          (world.tree.put place .directory).item? other = some .directory := by
        rw [FileTree.item?_put proper, directory]
        exact ite_self _
      exact ⟨place, FileTree.locate_of_directories kept leads,
        by rw [FileTree.item?_put proper, if_pos rfl]⟩

theorem exists_isDirectory_of_unlessDirectory {fault : Fault}
    (passes : outcome (unlessDirectory path fault) world = (.ok (), after)) :
    ∃ place, after.IsDirectory path place := by
  rw [outcome_unlessDirectory] at passes
  split at passes
  · rename_i directory
    cases passes
    exact World.kind?_eq_directory_iff.mp directory
  · cases passes

theorem exists_isDirectory_of_ensureDirectory
    (made : outcome (ensureDirectory path) world = (.ok (), after)) :
    ∃ place, after.IsDirectory path place := by
  unfold ensureDirectory at made
  rw [outcome_tryCatch] at made
  rcases first : outcome (Host.makeDirectory path : Session Unit) world with ⟨_ | _, between⟩
  · rw [first] at made
    exact exists_isDirectory_of_unlessDirectory made
  · rw [first] at made
    exact exists_isDirectory_of_makeDirectory (first.trans made)

/-- A directory that was made with those above it stands there. -/
theorem exists_isDirectory_of_makeDirectories
    (made : outcome (makeDirectories path) world = (.ok (), after)) :
    ∃ place, after.IsDirectory path place := by
  obtain ⟨root, names⟩ := path
  unfold makeDirectories at made
  dsimp only at made
  cases reversed : names.reverse with
  | nil =>
    obtain rfl := List.reverse_eq_nil_iff.mp reversed
    rw [reversed, makeDirectoriesFrom] at made
    exact exists_isDirectory_of_ensureDirectory made
  | cons name above =>
    obtain rfl : names = (name :: above).reverse := List.reverse_eq_iff.mp reversed
    rw [reversed, makeDirectoriesFrom, outcome_tryCatch] at made
    -- The directory is made at once, or those above it are made first.
    rcases first : outcome
        (Host.makeDirectory ⟨root, (name :: above).reverse⟩ : Session Unit) world with
      ⟨fault | _, between⟩
    · rw [first] at made
      dsimp only at made
      split at made
      · rw [outcome_bind] at made
        split at made
        · exact exists_isDirectory_of_ensureDirectory made
        · cases made
      · exact exists_isDirectory_of_unlessDirectory made
    · rw [first] at made
      exact exists_isDirectory_of_makeDirectory (first.trans made)

/-! ### What making a directory depends on -/

theorem concernsFiles_unlessDirectory (path : Path) (fault : Fault) :
    ConcernsFiles (unlessDirectory path fault) := fun world =>
  ⟨if world.kind? path = some .directory then .ok () else .error fault, world.tree,
    fun _ _ _ => outcome_unlessDirectory fault⟩

theorem concernsFiles_ensureDirectory (path : Path) : ConcernsFiles (ensureDirectory path) :=
  .tryCatch (.change path FileTree.makeDirectory) (concernsFiles_unlessDirectory path)

theorem concernsFiles_makeDirectoriesFrom (root : Root) (above : List String) :
    ConcernsFiles (makeDirectoriesFrom root above) := by
  induction above with
  | nil => exact concernsFiles_ensureDirectory _
  | cons name above ih =>
    refine .tryCatch (.change _ FileTree.makeDirectory) fun fault => ?_
    split
    · exact .bind ih fun _ => concernsFiles_ensureDirectory _
    · exact concernsFiles_unlessDirectory _ fault

/-! ### Replacing a file -/

/-- The names of drafts are parts of paths. -/
theorem isPart_draft (slashless : '/' ∉ name.toList) (n : Nat) :
    Path.IsPart (FileTree.numberedName ("." ++ name ++ ".") ".tmp" n) := by
  refine FileTree.isPart_numberedName (by simpa using slashless) ?_ n
  rw [String.length_append, String.length_append]
  change 2 < 1 + name.length + 1 + 4
  omega

/-- The names of drafts are names. -/
theorem isFileName_draft (file : IsFileName name) (n : Nat) :
    IsFileName (FileTree.numberedName ("." ++ name ++ ".") ".tmp" n) where
  slashless := (isPart_draft file.slashless n).slashless
  nullless := FileTree.notMem_numberedName (by decide) (by simpa using file.nullless) n
  proper := (isPart_draft file.slashless n).proper

/-- A new file stands under a free name in its directory. -/
theorem World.IsDirectory.exists_outcome_createFile (standing : world.IsDirectory directory place)
    {opening ending : String} (names : ∀ n, IsFileName (FileTree.numberedName opening ending n))
    (bytes : List UInt8) :
    ∃ draft, IsFileName draft ∧ world.tree.item? (place ++ [draft]) = none ∧
      outcome (Host.createFile directory opening ending bytes) world =
        (.ok (directory.child draft),
          { world with tree := world.tree.put (place ++ [draft]) (.file bytes) }) := by
  -- The name of the draft is free, and a file name like all that are tried.
  obtain ⟨n, numbered⟩ := world.tree.exists_freshName_eq place opening ending
  have free := world.tree.item?_freshName place opening ending
  generalize drafted : world.tree.freshName place opening ending = draft at numbered free
  have file : IsFileName draft := numbered ▸ names n
  refine ⟨draft, file, free, ?_⟩
  have located : outcome (locate directory) world = (.ok place, world) := by
    rw [outcome_locate, standing.leads]
    rfl
  have written : outcome (change (directory.child draft) fun tree => tree.write bytes) world =
      (.ok (), { world with tree := world.tree.put (place ++ [draft]) (.file bytes) }) := by
    rw [outcome_change, file.locate_child standing.leads standing.stands]
    simp only [bind, Except.bind, FileTree.write, free]
  change outcome (createFile directory opening ending bytes) world = _
  unfold createFile
  rw [outcome_bind_of_ok located, outcome_bind_of_ok outcome_get]
  dsimp only
  rw [drafted, outcome_bind_of_ok written, outcome_pure]

/-- A file that is moved within a directory stands under its new name. -/
theorem World.IsDirectory.outcome_moveFile (standing : world.IsDirectory directory place)
    {source target : String} (start : IsFileName source) (goal : IsFileName target)
    {bytes : List UInt8} (stands : world.tree.item? (place ++ [source]) = some (.file bytes))
    (vacant : world.tree.item? (place ++ [target]) ≠ some .directory) :
    outcome (Host.moveFile (directory.child source) (directory.child target)) world =
      (.ok (), { world with
        tree :=
          (world.tree.clear (place ++ [source])).put (place ++ [target]) (.file bytes) }) := by
  have located : outcome (locate (directory.child source)) world =
      (.ok (place ++ [source]), world) := by
    rw [outcome_locate, start.locate_child standing.leads standing.stands]
    rfl
  have named : isNamed (directory.child target) := by
    rw [goal.part.child_eq]
    simp [isNamed, goal.proper.2.2]
  have moved : world.tree.move (place ++ [source]) (place ++ [target]) =
      .ok ((world.tree.clear (place ++ [source])).put (place ++ [target]) (.file bytes)) := by
    unfold FileTree.move FileTree.read
    rw [stands]
    simp only [bind, Except.bind]
  change outcome (moveFile _ _) world = _
  unfold moveFile
  rw [outcome_bind_of_ok located, if_pos named, outcome_change,
    goal.locate_child standing.leads standing.stands]
  change (match world.tree.move (place ++ [source]) (place ++ [target]) with
    | .ok tree => _
    | .error kind => _) = _
  rw [moved]

/-- A file in a directory that is replaced holds the new text, and nothing else has changed. -/
theorem World.IsDirectory.exists_outcome_replaceFile (standing : world.IsDirectory directory place)
    (file : IsFileName name) (vacant : world.tree.item? (place ++ [name]) ≠ some .directory)
    (text : String) :
    ∃ tree, outcome (replaceFile (directory.child name) text) world =
        (.ok (), { world with tree }) ∧
      ∀ other, tree.item? other =
        if other = place ++ [name] then some (.file (Text.utf8Bytes text))
        else world.tree.item? other := by
  have parent : (directory.child name).parent = directory := by
    rw [file.part.child_eq, Path.parent]
    simp
  have last : (directory.child name).name = name := by
    rw [file.part.child_eq, Path.name]
    simp
  obtain ⟨draft, drafted, free, created⟩ :=
    standing.exists_outcome_createFile (isFileName_draft file) (Text.utf8Bytes text)
  have proper (name : String) : place ++ [name] ≠ [] := by simp
  -- The draft is a file where nothing stood, so that no directory changes.
  let between : World :=
    { world with tree := world.tree.put (place ++ [draft]) (.file (Text.utf8Bytes text)) }
  have item? (other : List String) : between.tree.item? other =
      if other = place ++ [draft] then some (.file (Text.utf8Bytes text))
      else world.tree.item? other := FileTree.item?_put (proper draft)
  have kept (other : List String) (stands : world.tree.item? other = some .directory) :
      between.tree.item? other = some .directory := by
    rw [item?, if_neg, stands]
    rintro rfl
    cases free.symm.trans stands
  have still : between.IsDirectory directory place :=
    ⟨FileTree.locate_of_directories kept standing.leads, kept _ standing.stands⟩
  -- The draft takes the place of the file, where no directory stands.
  have moved := still.outcome_moveFile drafted file ((item? _).trans (if_pos rfl)) (by
    rw [item?]
    split
    · exact fun same => by cases same
    · exact vacant)
  refine ⟨(between.tree.clear (place ++ [draft])).put (place ++ [name])
    (.file (Text.utf8Bytes text)), ?_, fun other => ?_⟩
  · unfold replaceFile
    rw [parent, last, outcome_bind_of_ok standing.outcome_makeDirectories,
      outcome_bind_of_ok created, outcome_tryCatch, moved]
  · rw [FileTree.item?_put (proper name), FileTree.item?_clear (proper draft), item?]
    split
    · rfl
    · split
      · rename_i same
        rw [same, free]
      · rfl

/-! ### Reading a file -/

theorem outcome_isFile (path : Path) :
    outcome (isFile path) world = (.ok (world.kind? path = some .file), world) := rfl

/-- The modules of a name by itself that stand in a world. -/
def World.modulesNamed (world : World) (name : String) : ModuleSpace where
  base := (Path.ofNames world.library).text
  files := (moduleFiles name).filter fun names =>
    world.kind? (names.foldl Path.child (.ofNames world.library)) = some .file

theorem outcome_modulesNamed (name : String) :
    outcome (modulesNamed name) world = (.ok (world.modulesNamed name), world) := by
  have library : outcome (Host.library : Session Path) world =
      (.ok (.ofNames world.library), world) := rfl
  unfold modulesNamed
  rw [outcome_bind_of_ok library, outcome_bind_of_ok (outcome_filterM fun _ => outcome_isFile _)]
  rfl

theorem outcome_readFile {bytes : List UInt8}
    (leads : world.tree.locate world.directory path = .ok place)
    (stands : world.tree.item? place = some (.file bytes)) :
    outcome (Host.readFile path) world = (.ok bytes, world) := by
  have located : outcome (locate path) world = (.ok place, world) := by
    rw [outcome_locate, leads]
    rfl
  change outcome (do orUnforeseen ((← get).tree.read (← locate path))) world = _
  rw [outcome_bind_of_ok outcome_get, outcome_bind_of_ok located, outcome_orUnforeseen,
    FileTree.read, stands]
  rfl

/-- What was written is read. -/
theorem outcome_readTextFile {text : String}
    (leads : world.tree.locate world.directory path = .ok place)
    (stands : world.tree.item? place = some (.file (Text.utf8Bytes text)))
    (plain : '\r' ∉ text.toList) : outcome (readTextFile path) world = (.ok (.ok text), world) := by
  unfold readTextFile
  rw [outcome_bind_of_ok (outcome_readFile leads stands), Text.readUtf8_utf8Bytes]
  dsimp only [Except.map]
  rw [Text.unifyLineEnds_of_notMem plain, String.ofList_toList]
  rfl

end EntryPoint
