/-
# The command line

The program on the system that it runs on.
-/

import EntryPoint.Program

namespace EntryPoint

/-- The computations on the system: they read and change it, and stop with a fault. -/
abbrev Shell := ExceptT Fault IO

namespace Shell

/-- The fault that an error of the system is. -/
def faultOf : IO.Error → Fault
  | .alreadyExists .. => .unforeseen .fileExists
  | .noFileOrDirectory .. => .unforeseen .fileMissing
  | .inappropriateType _ code _ => .unforeseen (if code = 21 then .isDirectory else .notDirectory)
  | _ => .unforeseen .refused

/-- Runs an action of the system. -/
def act {α : Type} (action : IO α) : Shell α := ExceptT.mk do
  try return .ok (← action)
  catch error => return .error (faultOf error)

/-- What an action of the system gives, unless it fails. -/
def attempt {α : Type} (action : IO α) : IO (Option α) := do
  try return some (← action)
  catch _ => return none

/-- What stands at a path: a directory can be opened but not read. -/
def kind? (path : Path) : IO (Option FileKind) := do
  match ← attempt (IO.FS.Handle.mk path.text .read) with
  | none => return none
  | some handle =>
    match ← attempt (handle.read 1) with
    | some _ => return some .file
    | none => return some .directory

/-- Writes a file under a free name; gives its path. -/
def createFile (directory : Path) (opening ending : String) (bytes : List UInt8) : IO Path := do
  let path := directory.child (opening ++ toString (← IO.monoNanosNow) ++ ending)
  let handle ← IO.FS.Handle.mk path.text .writeNew
  handle.write ⟨bytes.toArray⟩
  handle.flush
  return path

/-- All bytes that are left in a stream. -/
partial def drain (stream : IO.FS.Stream) (taken : ByteArray) : IO ByteArray := do
  let bytes ← stream.read 65536
  if bytes.isEmpty then return taken else drain stream (taken ++ bytes)

/-- All that is left of the standard input, with plain ends of lines. -/
def readInput : IO (Except String String) := do
  let bytes ← drain (← IO.getStdin) .empty
  return match Text.readUtf8 bytes.toList with
    | .ok text => .ok (String.ofList (Text.unifyLineEnds text.toList))
    | .error mistake => .error mistake.text

/-- The next line of the standard input without its end. -/
def readLine : IO (Option String) := do
  let line ← (← IO.getStdin).getLine
  if line.isEmpty then return none
  else return some (String.ofList (line.toList.reverse.dropWhile (· = '\n')).reverse)

/-- The name of the system, where a file tells it. -/
def system : IO String := do
  let bytes ← attempt (IO.FS.readBinFile "/proc/sys/kernel/ostype")
  let text := (bytes.bind fun bytes => (Text.readUtf8 bytes.toList).toOption).getD ""
  return String.ofList (Text.trimBlanks text.toList)

/-- The first directory of the modules that the environment names, or the current one. -/
def library : IO Path := do
  let places := (← IO.getEnv "PYTHONPATH").getD ""
  let first := String.ofList (places.toList.takeWhile (· ≠ ':'))
  let current := toString (← IO.currentDir)
  return .ofString (if first.isEmpty then current else first)

/-- Writes a text to a stream. -/
def write (channel : Channel) (text : String) : IO Unit := do
  let stream ← match channel with
    | .output => IO.getStdout
    | .diagnostics => IO.getStderr
  stream.putStr text
  stream.flush

instance : Host Shell where
  directory := act do return (Path.ofString (toString (← IO.currentDir))).names
  environment? name := act (IO.getEnv name)
  system := act system
  library := act library
  isTerminal := act do return ← (← IO.getStdout).isTty
  kind? path := act (kind? path)
  readFile path := act do return (← IO.FS.readBinFile path.text).toList
  writeFile path bytes := act (IO.FS.writeBinFile path.text ⟨bytes.toArray⟩)
  createFile directory opening ending bytes := act (createFile directory opening ending bytes)
  moveFile source target := act (IO.FS.rename source.text target.text)
  removeFile path := act (IO.FS.removeFile path.text)
  makeDirectory path := act (IO.FS.createDir path.text)
  readInput := act readInput
  readLine := act readLine
  lineBound := pure (Nat.pow 2 64)
  write channel text := act (write channel text)
  moment := act do return toString (← IO.monoNanosNow)
  fetch _ := pure (.error "no network")

end Shell

end EntryPoint

/-- Runs the program and ends with its exit code; a fault that not even a report survives ends it
with the general one. -/
def main (arguments : List String) : IO UInt32 := do
  match ← (EntryPoint.run arguments : EntryPoint.Shell Int).run with
  | .ok code => return code.toNat.toUInt32
  | .error fault =>
    IO.eprintln fault.text
    return EntryPoint.FailureKind.general.exitCode.toNat.toUInt32
