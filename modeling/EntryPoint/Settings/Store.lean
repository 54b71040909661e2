/-
# Stored settings

The settings that hold for all projects of a user are stored as one document: a
mapping from names to texts and truth values. Names are kept as they are, whether
an option of that name exists or not.

## Main definitions

* `Settings` - settings by name.
* `Settings.read`, `Settings.toValue` - settings and their document.
* `loadSettings`, `saveSettings` - settings and their file.
-/

import EntryPoint.Document.Json.Reader
import EntryPoint.Document.Json.Writer
import EntryPoint.Options
import EntryPoint.Settings.Place

namespace EntryPoint

open Document

/-- Settings by name; each name occurs once. -/
abbrev Settings := List (String × Setting)

namespace Settings

/-- The key of a document that the settings stand under. -/
def key : String := "render"

/-- The setting that a value is: a text or a truth value as it is, anything else by the truth value
that it stands for. -/
def readSetting (name : String) (value : Value) : Except (List Violation) Setting :=
  match value with
  | .text text => .ok (.text text)
  | value =>
    match readTruth value with
    | .ok truth => .ok (.truth truth)
    | .error kind =>
      let place := [Step.key key, .key name]
      -- The value was tried as either kind of setting, and both refusals are told.
      .error [⟨place ++ [.key "bool"], kind⟩, ⟨place ++ [.key "str"], .notText⟩]

/-- The settings of pairs, or all violations in them. -/
def readPairs : List (Value × Value) → Except (List Violation) Settings
  | [] => .ok []
  | (name, value) :: rest =>
    match readSetting name.plainText value, readPairs rest with
    | .ok setting, .ok settings => .ok ((name.plainText, setting) :: settings)
    -- A violation does not keep the others from being found.
    | .ok _, .error violations | .error violations, .ok _ => .error violations
    | .error first, .error others => .error (first ++ others)

/-- The settings that a value lists. -/
def readValue : Value → Except (List Violation) Settings
  | .mapping pairs => readPairs pairs
  | _ => .error [⟨[.key key], .notMapping⟩]

/-- The name of the model that a document of settings fits. -/
def model : String := "GlobalConfig"

/-- The settings under the key of a document; without that key there are none. -/
def read (document : Value) : Except Rejection Settings :=
  let settings :=
    match document with
    | .mapping pairs => ((Value.lookup? key pairs).map readValue).getD (.ok [])
    | _ => .error [⟨[], .notModel model⟩]
  settings.mapError (⟨model, ·⟩)

/-- Settings as a mapping. -/
def toValue (settings : Settings) : Value :=
  .mapping (settings.map fun (name, setting) => (.text name, setting.toValue))

/-- Settings as overrides of the options. -/
def toOverrides (settings : Settings) : Overrides :=
  settings.map fun (name, setting) => (name, setting.toValue)

/-- The text of the document of settings. -/
def documentText (settings : Settings) : String :=
  writeJson { indentation := some 2 } (.mapping [(.text key, settings.toValue)]) ++ "\n"

end Settings

/-! ### The file -/

variable {m : Type → Type} [Monad m] [MonadExceptOf Fault m] [Host m]

/-- The path to the file of the settings. -/
def settingsFile : m Path :=
  return (← settingsDirectory).child "config.json"

/-- The value of a file in JSON, or what is wrong with its bytes or its text. -/
def readJsonFile (path : Path) : m (Except String Value) := do
  match ← readTextFile path with
  | .error mistake => return .error mistake.text
  | .ok content => return (readJson content).mapError (·.text content.toList)

/-- The settings in a text of a file, or what is wrong with them. -/
def Settings.ofContent (content : Except String Value) : Except String Settings := do
  (Settings.read (← content)).mapError Rejection.text

/-- The stored settings; without a file there are none. -/
def loadSettings : m Settings := do
  let path ← settingsFile
  if ← isFile path then
    match Settings.ofContent (← readJsonFile path) with
    | .ok settings => return settings
    | .error reason =>
      stop .configuration ("Invalid global config at " ++ path.text ++ ": " ++ reason)
  else return []

/-- Stores settings. -/
def saveSettings (settings : Settings) : m Unit := do
  replaceFile (← settingsFile) settings.documentText

end EntryPoint
