/-
# The host

What a program asks of the system around it: files, variables, streams, the
network. The operations are those of a class, so that one program runs both on a
real system and on a described one. What the program makes of them, such as
directories with all that lie above them and files that appear at once or not at
all, is defined here once for every host.

## Main definitions

* `Host` - the operations.
* `makeDirectories` - makes a directory and those above it.
* `modulesNamed` - looks for a module.
* `replaceFile` - writes a file so that it is never seen half written.
* `readTextFile` - the text of a file.
-/

import EntryPoint.Module.Library
import EntryPoint.Text.Charset

namespace EntryPoint

open Text

/-- The kinds of what stands at a path. -/
inductive FileKind
  | directory
  | file
  deriving DecidableEq

/-- The streams to write to: the standard output, and the standard error stream for diagnostics. -/
inductive Channel
  | output
  | diagnostics
  deriving DecidableEq

/-- An answer from the network: its status, the type of its content if it says so, and the bytes of
the content. -/
structure Reply where
  status : Nat
  contentType : Option String
  body : List UInt8

/-- The content of an answer, read by the character set that its type names. -/
def Reply.text (reply : Reply) : String :=
  (Charset.ofContentType (reply.contentType.getD "")).decode reply.body

/-- The operations of a host. Those on files stop with a fault where they fail. -/
class Host (m : Type → Type) where
  /-- The current directory by the names below the root. -/
  directory : m (List String)
  /-- A variable of the environment. -/
  environment? : String → m (Option String)
  /-- The name of the system. -/
  system : m String
  /-- The directory of the modules that can be found. -/
  library : m Path
  /-- Whether the standard output is a terminal. -/
  isTerminal : m Bool
  /-- What stands at a path, if anything does. -/
  kind? : Path → m (Option FileKind)
  /-- The bytes of a file. -/
  readFile : Path → m (List UInt8)
  /-- Writes a file, over the one that stands there. -/
  writeFile : Path → List UInt8 → m Unit
  /-- Writes a file under a free name with an opening and an ending; gives its path. -/
  createFile : Path → String → String → List UInt8 → m Path
  /-- Moves a file to another path, over the file that stands there. -/
  moveFile : Path → Path → m Unit
  /-- Removes a file. -/
  removeFile : Path → m Unit
  /-- Makes a directory in one that exists. -/
  makeDirectory : Path → m Unit
  /-- All that is left of the standard input, or why it cannot be read. -/
  readInput : m (Except String String)
  /-- The next line of the standard input without its end, unless the input has ended. -/
  readLine : m (Option String)
  /-- A number that the lines left to read do not exceed. -/
  lineBound : m Nat
  /-- Writes a text to a stream. -/
  write : Channel → String → m Unit
  /-- A text that names the present moment. -/
  moment : m String
  /-- The answer to a request, or why there is none. -/
  fetch : String → m (Except String Reply)

variable {m : Type → Type} [Monad m] [MonadExceptOf Fault m] [Host m]

/-! ### Outcomes -/

/-- Goes on with the value of an outcome, or stops with its fault. -/
def orStop {α : Type} : Except Fault α → m α
  | .ok value => pure value
  | .error fault => throw fault

/-- Stops with a failure of a kind. -/
def stop {α : Type} (kind : FailureKind) (message : String) : m α :=
  throw (.failure { kind, message })

/-! ### Files and directories -/

/-- Whether a file stands at a path. -/
def isFile (path : Path) : m Bool :=
  return (← Host.kind? path) = some .file

/-- Lets a fault pass where a directory stands at the path. -/
def unlessDirectory (path : Path) (fault : Fault) : m Unit := do
  if (← Host.kind? path) = some .directory then pure () else throw fault

/-- Makes a directory where none stands. -/
def ensureDirectory (path : Path) : m Unit :=
  tryCatch (Host.makeDirectory path) (unlessDirectory path)

/-- Makes the directory below a root that names lead to, last name first, and those above it where
they are missing. -/
def makeDirectoriesFrom (root : Root) : List String → m Unit
  | [] => ensureDirectory ⟨root, []⟩
  | name :: above =>
    let path : Path := ⟨root, (name :: above).reverse⟩
    tryCatch (Host.makeDirectory path) fun fault =>
      -- Only where something above is missing are the directories above made.
      if fault = .unforeseen .fileMissing then do
        makeDirectoriesFrom root above
        ensureDirectory path
      else unlessDirectory path fault

/-- Makes a directory and those above it where they are missing. -/
def makeDirectories (path : Path) : m Unit :=
  makeDirectoriesFrom path.root path.names.reverse

/-- The files that a module of a name by itself can stand in, below the directory of the modules. -/
def moduleFiles (name : String) : List (List String) :=
  [[name, "__init__.py"], [name ++ ".py"]]

/-- The modules of a name by itself that can be found. -/
def modulesNamed (name : String) : m ModuleSpace := do
  let library ← Host.library
  let files ← (moduleFiles name).filterM fun names => isFile (names.foldl Path.child library)
  return ⟨library.text, files⟩

/-- Writes a text to a file at once: to a new file beside it that then takes its place. If it cannot
take it, the new file is removed. -/
def replaceFile (path : Path) (text : String) : m Unit := do
  makeDirectories path.parent
  let draft ← Host.createFile path.parent ("." ++ path.name ++ ".") ".tmp" (utf8Bytes text)
  tryCatch (Host.moveFile draft path) fun fault => do
    -- What stopped the move is told even if the draft cannot be removed.
    tryCatch (Host.removeFile draft) fun _ => pure ()
    throw fault

/-- The text of a file with plain ends of lines, or what is wrong with its bytes. -/
def readTextFile (path : Path) : m (Except Utf8Mistake String) := do
  let bytes ← Host.readFile path
  return (readUtf8 bytes).map fun text => String.ofList (unifyLineEnds text.toList)

end EntryPoint
