/-
# Render options

Eight options shape a generated module. Two of them are names, the others are
switches. Overrides are laid over the defaults: every value must fit its option,
and no key may be unknown.

## Main definitions

* `OptionKey` - the options.
* `readTruth` - the truth value that a value stands for.
* `OptionKey.read` - the setting that a value gives to an option.
* `Options.ofOverrides` - the defaults with overrides laid over them.
* `GivenOptions`, `GivenOptions.ofOverrides` - options that know which of them were given.
* `Options.merge` - options merged from what a caller supplies.
-/

import EntryPoint.Association
import EntryPoint.Document.Value
import EntryPoint.Failure
import EntryPoint.Text.Identifier

namespace EntryPoint

open Document

/-- The options, in order. -/
inductive OptionKey
  | lib
  | functionName
  | strict
  | help
  | helpAlias
  | version
  | asyncFunction
  | runnable
  deriving DecidableEq

namespace OptionKey

/-- All options in order. -/
def all : List OptionKey :=
  [.lib, .functionName, .strict, .help, .helpAlias, .version, .asyncFunction, .runnable]

/-- The name of an option. -/
def name : OptionKey → String
  | .lib => "lib"
  | .functionName => "function_name"
  | .strict => "strict"
  | .help => "help"
  | .helpAlias => "help_alias"
  | .version => "version"
  | .asyncFunction => "async_function"
  | .runnable => "runnable"

/-- The option of a name. -/
def ofName? (name : String) : Option OptionKey :=
  all.find? (·.name = name)

/-- Whether an option is a name. -/
def isName : OptionKey → Bool
  | .lib | .functionName => true
  | _ => false

end OptionKey

/-- The options of a render. -/
structure Options where
  lib : String := "yargs"
  functionName : String := "cli"
  strict : Bool := true
  help : Bool := true
  helpAlias : Bool := true
  version : Bool := true
  asyncFunction : Bool := false
  runnable : Bool := false
  deriving DecidableEq

/-- What an option is set to. -/
inductive Setting
  | text (value : String)
  | truth (value : Bool)
  deriving DecidableEq

/-- A setting as a value. -/
def Setting.toValue : Setting → Value
  | .text value => .text value
  | .truth value => .truth value

/-- The text of a setting. -/
def Setting.display : Setting → String
  | .text value => value
  | .truth true => "True"
  | .truth false => "False"

namespace Options

/-- What an option is set to. -/
def get (options : Options) : OptionKey → Setting
  | .lib => .text options.lib
  | .functionName => .text options.functionName
  | .strict => .truth options.strict
  | .help => .truth options.help
  | .helpAlias => .truth options.helpAlias
  | .version => .truth options.version
  | .asyncFunction => .truth options.asyncFunction
  | .runnable => .truth options.runnable

/-- Sets an option. A setting of the other kind changes nothing. -/
def set (options : Options) : OptionKey → Setting → Options
  | .lib, .text value => { options with lib := value }
  | .functionName, .text value => { options with functionName := value }
  | .strict, .truth value => { options with strict := value }
  | .help, .truth value => { options with help := value }
  | .helpAlias, .truth value => { options with helpAlias := value }
  | .version, .truth value => { options with version := value }
  | .asyncFunction, .truth value => { options with asyncFunction := value }
  | .runnable, .truth value => { options with runnable := value }
  | _, _ => options

/-- All options with their names as a mapping. -/
def toValue (options : Options) : Value :=
  .mapping (OptionKey.all.map fun key => (.text key.name, (options.get key).toValue))

end Options

/-! ### Reading values -/

/-- The words for false. -/
def falseWords : List String := ["0", "off", "f", "false", "n", "no"]

/-- The words for true. -/
def trueWords : List String := ["1", "on", "t", "true", "y", "yes"]

/-- The truth value of an integer: only zero and one have one, and beyond 64 bits an integer is no
truth value at all. -/
def truthOfInt (n : Int) : Except ViolationKind Bool :=
  if n = 0 then .ok false
  else if n = 1 then .ok true
  -- An integer beyond 64 bits is not even tried as a truth value.
  else if -0x8000000000000000 ≤ n ∧ n < 0x8000000000000000 then .error .unreadableTruth
  else .error .notTruth

/-- The truth value that a value stands for. -/
def readTruth : Value → Except ViolationKind Bool
  | .truth value => .ok value
  | .text value =>
    let word := Text.lowerAscii value
    if falseWords.contains word then .ok false
    else if trueWords.contains word then .ok true
    else .error .unreadableTruth
  | .integer value => truthOfInt value
  | .real value =>
    match value.toInt? with
    | some n => truthOfInt n
    | none => .error .notTruth
  | _ => .error .notTruth

/-- The text that a value is. -/
def readText : Value → Except ViolationKind String
  | .text value => .ok value
  | _ => .error .notText

/-- The text of a value that must be a name to bind. -/
def readName (value : Value) : Except ViolationKind String := do
  let name ← readText value
  if Text.isBindable name then .ok name
  else .error (.badValue (Text.quote name ++ " is not a valid Python identifier"))

/-- The setting that a value gives to an option. -/
def OptionKey.read (key : OptionKey) (value : Value) : Except ViolationKind Setting :=
  if key.isName then Setting.text <$> readName value else Setting.truth <$> readTruth value

/-! ### Overrides -/

/-- Values by the names of options; each name occurs once. -/
abbrev Overrides := List (String × Value)

namespace Overrides

/-- The pairs of a mapping by the text of their keys. -/
def ofPairs (pairs : List (Value × Value)) : Overrides :=
  pairs.map fun (key, value) => (key.plainText, value)

end Overrides

namespace Options

/-- The violation of an option by the value that overrides it, if there is one. -/
def violation? (overrides : Overrides) (key : OptionKey) : Option Violation :=
  match overrides.lookup key.name with
  | none => none
  | some value =>
    match key.read value with
    | .ok _ => none
    | .error kind => some ⟨[.key key.name], kind⟩

/-- The violations of overrides: by options in order, then by unknown keys. -/
def violations (overrides : Overrides) : List Violation :=
  OptionKey.all.filterMap (violation? overrides) ++
    (overrides.filter fun (name, _) => (OptionKey.ofName? name).isNone).map fun (name, _) =>
      ⟨[.key name], .unknownField⟩

/-- Sets an option to the value that overrides it, if that value fits. -/
def applyOverride (overrides : Overrides) (options : Options) (key : OptionKey) : Options :=
  match (overrides.lookup key.name).map key.read with
  | some (.ok setting) => options.set key setting
  | _ => options

/-- The defaults with overrides laid over them. -/
def ofOverrides (overrides : Overrides) : Except Rejection Options :=
  match violations overrides with
  | [] => .ok (OptionKey.all.foldl (applyOverride overrides) {})
  | violations => .error ⟨"RenderOptions", violations⟩

/-- All options as overrides. -/
def toOverrides (options : Options) : Overrides :=
  OptionKey.all.map fun key => (key.name, (options.get key).toValue)

end Options

/-! ### Merging -/

/-- Options, and which of them were given; the others are defaults. -/
structure GivenOptions where
  options : Options
  given : List OptionKey
  deriving DecidableEq

namespace GivenOptions

/-- The options of overrides; those that the overrides name are given. -/
def ofOverrides (overrides : Overrides) : Except Rejection GivenOptions := do
  let options ← Options.ofOverrides overrides
  return ⟨options, OptionKey.all.filter fun key => (overrides.lookup key.name).isSome⟩

/-- The options that were given, as overrides. -/
def toOverrides (given : GivenOptions) : Overrides :=
  given.given.map fun key => (key.name, (given.options.get key).toValue)

end GivenOptions

/-- What a caller supplies of the options. -/
inductive OptionsSource
  | nothing
  | options (given : GivenOptions)
  | overrides (overrides : Overrides)

/-- The overrides that a caller supplies: of options, only those that were given. -/
def OptionsSource.toOverrides : OptionsSource → Overrides
  | nothing => []
  | options given => given.toOverrides
  | overrides supplied => supplied

/-- What a caller supplies, merged into the defaults: every option is given then. -/
def Options.merge (source : OptionsSource) : Except Rejection GivenOptions :=
  GivenOptions.ofOverrides (Association.update (Options.toOverrides {}) source.toOverrides)

end EntryPoint
