/-
# Signatures

The description of a function that an entry point calls: its name and purpose,
its positionals and options with the calls that declare them, and the files that
export what the entry point needs.

## Main definitions

* `Signature` - the description.
* `Positional.check`, `Flag.check`, `Signature.check` - from values that may not fit.
* `Context` - how an entry point is generated.
-/

import EntryPoint.Chain
import EntryPoint.Options
import EntryPoint.Path

namespace EntryPoint

open Document Syntax

/-- A positional argument with the call that declares it. -/
structure Positional where
  name : String
  call : Call
  required : Bool := true

/-- An option with the call that declares it. -/
structure Flag where
  name : String
  call : Call

/-- The names that a file exports by default and by name. -/
structure Exports where
  default : List String := []
  named : List String := []
  deriving DecidableEq

/-- The description of a function. Files are in order, each occurs once. -/
structure Signature where
  name : String
  description : Expr
  positionals : List Positional := []
  options : List Flag := []
  references : List (Path × Exports) := []

/-- How an entry point is generated: with the module of the function inlined or imported, and with
fixed arguments or none. -/
structure Context where
  inlines : Bool := false
  args : Option (List String) := none
  deriving DecidableEq

/-- The default call that declares a name. -/
def defaultCall (callee name : String) : Call :=
  .ofName callee [textExpr name] []

/-! ### From values that may not fit -/

/-- A value, or what is wrong at the place of its field. -/
def atField {α : Type} (field : String) (result : Except ViolationKind α) :
    Except (List Violation) α :=
  result.mapError fun kind => [⟨[.key field], kind⟩]

/-- Both values, or what is wrong with either. -/
def both {α β : Type} (first : Except (List Violation) α) (second : Except (List Violation) β) :
    Except (List Violation) (α × β) :=
  match first, second with
  | .ok a, .ok b => .ok (a, b)
  | .error a, .error b => .error (a ++ b)
  | .error a, .ok _ => .error a
  | .ok _, .error b => .error b

/-- The outcome of a model of a name. -/
def ofModel {α : Type} (model : String) (result : Except (List Violation) α) : Except Fault α :=
  result.mapError fun violations => .rejection ⟨model, violations⟩

/-- The call that an expression must be. -/
def readCall (expr : Expr) : Except ViolationKind Call :=
  match Call.ofExpr? expr with
  | some call => .ok call
  | none => .error (.notInstance "Call")

/-- A positional from values. -/
def Positional.check (name : Value) (call : Expr) (required : Value) : Except Fault Positional :=
  ofModel "Positional" do
    let (name, call, required) ← both (atField "name" (readText name))
      (both (atField "call" (readCall call)) (atField "required" (readTruth required)))
    .ok { name, call, required }

/-- An option from values. -/
def Flag.check (name : Value) (call : Expr) : Except Fault Flag :=
  ofModel "Option" do
    let (name, call) ← both (atField "name" (readText name)) (atField "call" (readCall call))
    .ok { name, call }

/-- An exported name from a value. -/
def checkExport (name : Value) : Except Fault String :=
  ofModel "ExportRef" (atField "name" (readText name))

/-- A description: a text, or an expression by itself. -/
def readDescription (value : Value) (expr : Option Expr) : Except ViolationKind Expr :=
  match expr, value with
  | some expr, _ => .ok expr
  | none, .text text => .ok (textExpr text)
  | none, _ => .error (.notInstance "expr")

/-- A signature from values. -/
def Signature.check (name : Value) (description : Except ViolationKind Expr)
    (positionals : List Positional) (options : List Flag) (references : List (Path × Exports)) :
    Except Fault Signature :=
  ofModel "TransformResult" do
    let (name, description) ←
      both (atField "name" (readText name)) (atField "description" description)
    .ok { name, description, positionals, options, references }

/-- The texts of a list of values; what is no text is reported at its position. -/
def readTexts (field : String) : Nat → List Value → Except (List Violation) (List String)
  | _, [] => .ok []
  | index, first :: rest => do
    let here : Except (List Violation) String :=
      (readText first).mapError fun kind => [⟨[.key field, .position index], kind⟩]
    let (text, texts) ← both here (readTexts field (index + 1) rest)
    .ok (text :: texts)

/-- A context from values that may be missing. -/
def Context.check (inlines args : Option Value) : Except Fault Context :=
  ofModel "Context" do
    let inlines := match inlines with
      | none => .ok false
      | some value => atField "stdin" (readTruth value)
    let args := match args with
      | none | some .null => .ok none
      | some (.list values) => some <$> readTexts "args" 0 values
      | some _ => .error [⟨[.key "args"], .notList⟩]
    let (inlines, args) ← both inlines args
    .ok { inlines, args }

end EntryPoint
