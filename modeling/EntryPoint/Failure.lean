/-
# Failures

A failure belongs to a kind, which settles the exit code of the program unless
the failure sets its own. Kinds form a tree below the general one. A `Fault` is
anything that can stop an operation: a failure, data that does not fit its
model, or a fault that the program did not foresee.

## Main definitions

* `FailureKind`, `Failure` - what the program reports.
* `Violation`, `Rejection` - what is wrong with data that does not fit a model.
* `Fault` - the three together.
-/

import EntryPoint.Text.Digits

namespace EntryPoint

/-! ### Failures -/

/-- The kinds of failures. -/
inductive FailureKind
  | general
  | usage
  | construction
  | invariant
  | unsupported
  | signature
  | resolution
  | configuration
  deriving DecidableEq

namespace FailureKind

/-- The kind that a kind refines. -/
def parent? : FailureKind → Option FailureKind
  | .general => none
  | .invariant | .unsupported => some .construction
  | .usage | .construction | .signature | .resolution | .configuration => some .general

/-- The exit code of a kind. -/
def exitCode : FailureKind → Int
  | .general | .configuration => 1
  | .usage => 2
  | .construction | .invariant | .unsupported => 3
  | .signature => 4
  | .resolution => 5

/-- A kind with all the kinds that it refines, from the kind itself on. -/
def lineage (kind : FailureKind) : List FailureKind :=
  match kind.parent? with
  | none => [kind]
  | some parent =>
    match parent.parent? with
    | none => [kind, parent]
    | some root => [kind, parent, root]

end FailureKind

/-- A failure: its kind, its message, and an exit code of its own if it has one. -/
structure Failure where
  kind : FailureKind
  message : String
  ownExitCode : Option Int := none
  deriving DecidableEq

/-- The exit code of a failure. -/
def Failure.exitCode (failure : Failure) : Int :=
  failure.ownExitCode.getD failure.kind.exitCode

/-! ### Data that does not fit -/

/-- A step to a place inside data: a key, or a position in a list. -/
inductive Step
  | key (name : String)
  | position (index : Nat)
  deriving DecidableEq

/-- The text of a step. -/
def Step.text : Step → String
  | .key name => name
  | .position index => Text.decimal index

/-- What is wrong at a place. -/
inductive ViolationKind
  | notText
  | notTruth
  | unreadableTruth
  | notList
  | notMapping
  | unknownField
  | badValue (reason : String)
  | notInstance (expected : String)
  | notModel (name : String)
  deriving DecidableEq

namespace ViolationKind

/-- The name of a violation. -/
def code : ViolationKind → String
  | .notText => "string_type"
  | .notTruth => "bool_type"
  | .unreadableTruth => "bool_parsing"
  | .notList => "list_type"
  | .notMapping => "dict_type"
  | .unknownField => "extra_forbidden"
  | .badValue _ => "value_error"
  | .notInstance _ => "is_instance_of"
  | .notModel _ => "model_type"

/-- The explanation of a violation. -/
def text : ViolationKind → String
  | .notText => "Input should be a valid string"
  | .notTruth => "Input should be a valid boolean"
  | .unreadableTruth => "Input should be a valid boolean, unable to interpret input"
  | .notList => "Input should be a valid list"
  | .notMapping => "Input should be a valid dictionary"
  | .unknownField => "Extra inputs are not permitted"
  | .badValue reason => "Value error, " ++ reason
  | .notInstance expected => "Input should be an instance of " ++ expected
  | .notModel name => "Input should be a valid dictionary or instance of " ++ name

end ViolationKind

/-- A violation at a place. -/
structure Violation where
  place : List Step
  kind : ViolationKind
  deriving DecidableEq

/-- The lines of a violation: its place, unless that is the whole, and its explanation. -/
def Violation.lines (violation : Violation) : List String :=
  let place := ".".intercalate (violation.place.map Step.text)
  let explanation := "  " ++ violation.kind.text ++ " [type=" ++ violation.kind.code ++ "]"
  if violation.place.isEmpty then [explanation] else [place, explanation]

/-- Data that does not fit a model. -/
structure Rejection where
  model : String
  violations : List Violation
  deriving DecidableEq

/-- The report on rejected data: how many violations there are, and each of them. -/
def Rejection.text (rejection : Rejection) : String :=
  let count := rejection.violations.length
  let noun := if count = 1 then " validation error for " else " validation errors for "
  "\n".intercalate
    ((Text.decimal count ++ noun ++ rejection.model) ::
      rejection.violations.flatMap Violation.lines)

/-! ### Faults -/

/-- The kinds of faults that are not foreseen. -/
inductive UnforeseenKind
  | malformedExpression
  | value
  | type
  | overflow
  | unknownTruth
  | emptyNumeral
  | unreadableMoment
  | decoding
  | markup
  | isDirectory
  | notDirectory
  | fileExists
  | fileMissing
  | refused
  deriving DecidableEq

/-- Anything that can stop an operation. -/
inductive Fault
  | failure (failure : Failure)
  | rejection (rejection : Rejection)
  | unforeseen (kind : UnforeseenKind)
  deriving DecidableEq

/-- Stops with a failure of a kind. -/
def fail {α : Type} (kind : FailureKind) (message : String) : Except Fault α :=
  .error (.failure { kind, message })

/-- Stops with a fault that is not foreseen. -/
def failUnforeseen {α : Type} (kind : UnforeseenKind) : Except Fault α :=
  .error (.unforeseen kind)

end EntryPoint
