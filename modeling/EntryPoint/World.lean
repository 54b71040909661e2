/-
# Described worlds

A world describes all that a program can find out about the system around it, and
a session is a computation that asks and changes such a world. So what a program
does is a function of the world that it starts in.

## Main definitions

* `World` - the description of a system.
* `Session` - the computations in a world.
* the instance of `Host` for sessions.
-/

import EntryPoint.FileTree
import EntryPoint.Host

namespace EntryPoint

/-- A system: its files, the current directory, the variables, its name, the place of the modules,
whether the output is a terminal, the input or why it cannot be read, the answers of the network,
the present moment, and what has been written. -/
structure World where
  tree : FileTree := {}
  directory : List String := []
  environment : List (String × String) := []
  system : String := ""
  library : List String := []
  isTerminal : Bool := false
  input : Except String String := .ok ""
  replies : List (String × Except String Reply) := []
  moment : String := ""
  output : String := ""
  diagnostics : String := ""

/-- The computations in a world. What they have changed stays when they stop with a fault. -/
abbrev Session := ExceptT Fault (StateM World)

namespace World

/-- What stands at a path. -/
def kind? (world : World) (path : Path) : Option FileKind :=
  match world.tree.locate world.directory path with
  | .error _ => none
  | .ok place =>
    (world.tree.item? place).map fun
      | .directory => .directory
      | .file _ => .file

/-- A text up to the end of its first line, and the text behind that end. -/
def splitLine (text : String) : String × String :=
  let line := text.toList.takeWhile (· ≠ '\n')
  (String.ofList line, String.ofList (text.toList.drop (line.length + 1)))

end World

namespace Session

/-- Asks the world. -/
def ask {α : Type} (question : World → α) : Session α :=
  return question (← get)

/-- The outcome of an operation on files. -/
def orUnforeseen {α : Type} (outcome : Except UnforeseenKind α) : Session α :=
  orStop (outcome.mapError .unforeseen)

/-- The place that a path leads to. -/
def locate (path : Path) : Session (List String) := do
  let world ← get
  orUnforeseen (world.tree.locate world.directory path)

/-- Changes the files at the place of a path. -/
def change (path : Path) (deed : FileTree → List String → Except UnforeseenKind FileTree) :
    Session Unit := do
  let place ← locate path
  let tree ← orUnforeseen (deed (← get).tree place)
  modify ({ · with tree })

/-- Writes a file under a free name in a directory. -/
def createFile (directory : Path) (opening ending : String) (bytes : List UInt8) :
    Session Path := do
  let place ← locate directory
  let path := directory.child ((← get).tree.freshName place opening ending)
  change path fun tree => tree.write bytes
  return path

/-- Whether a path ends in a name of its own, and not at a root or on the way up. -/
def isNamed (path : Path) : Bool :=
  path.names.getLast?.any (· ≠ "..")

/-- Moves a file to another path. -/
def moveFile (source target : Path) : Session Unit := do
  let start ← locate source
  if isNamed target then change target fun tree => tree.move start
  else orUnforeseen (.error .refused)

/-- Takes all that is left of the input. -/
def readInput : Session (Except String String) := do
  let input := (← get).input
  match input with
  | .ok _ => modify ({ · with input := .ok "" })
  -- An input that cannot be read once cannot be read again either.
  | .error _ => pure ()
  return input

/-- Takes the next line of the input. -/
def readLine : Session (Option String) := do
  match (← get).input with
  | .error _ => return none
  | .ok text =>
    if text.isEmpty then return none
    else
      let (line, rest) := World.splitLine text
      modify ({ · with input := .ok rest })
      return some line

/-- Writes a text to a stream. -/
def write (channel : Channel) (text : String) : Session Unit :=
  modify fun world =>
    match channel with
    | .output => { world with output := world.output ++ text }
    | .diagnostics => { world with diagnostics := world.diagnostics ++ text }

instance : Host Session where
  directory := ask World.directory
  environment? name := ask (·.environment.lookup name)
  system := ask World.system
  library := ask fun world => .ofNames world.library
  isTerminal := ask World.isTerminal
  kind? path := ask (·.kind? path)
  readFile path := do orUnforeseen ((← get).tree.read (← locate path))
  writeFile path bytes := change path fun tree => tree.write bytes
  createFile := createFile
  moveFile := moveFile
  removeFile path := change path FileTree.remove
  makeDirectory path := change path FileTree.makeDirectory
  readInput := readInput
  readLine := readLine
  lineBound := ask fun world => (world.input.toOption.getD "").length
  write := write
  moment := ask World.moment
  fetch address := ask fun world => (world.replies.lookup address).getD (.error "no network")

end Session

end EntryPoint
