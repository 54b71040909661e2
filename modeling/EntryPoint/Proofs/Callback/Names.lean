/-
# The names of the handler

The handler binds its parameter, a name for each positional, and a name for the
rest if there are options. In an accepted signature these names are distinct, and
the name of the function is none of them.

## Main definitions

* `capturedNames` - the names that the pattern of the handler binds.
* `handlerScope` - the handler as a scope.

## Main results

* `locals_handlerScope` - the names that are local to the handler.
* `capturedNames_nodup`, `keys_nodup` - captures and keys are distinct.
* `name_notMem_locals_handlerScope` - the handler does not bind the name of the function.
-/

import EntryPoint.Proofs.Signature.Accepted
import EntryPoint.Proofs.Syntax.Scope
import EntryPoint.Proofs.Text.Identifier

namespace EntryPoint

open Syntax Text

variable {signature : Signature}

/-- The item of a mapping pattern that captures a key under its own name. -/
def captureItem (name : String) : Expr × Pattern :=
  (textExpr name, .capture none (some name))

theorem capturesItems_captureItem (names : List String) :
    capturesItems (names.map captureItem) = names := by
  induction names with
  | nil => rfl
  | cons first rest ih => rw [List.map_cons, captureItem, capturesItems, ih]; rfl

/-! ### The names of the handler -/

/-- The name for the rest, if there are options. -/
def restNames (signature : Signature) : List String :=
  if signature.options.isEmpty then [] else [optionsName]

/-- The names that the pattern of the handler binds: the positionals, and the name for the rest. -/
def capturedNames (signature : Signature) : List String :=
  signature.positionalNames ++ restNames signature

theorem destructuringPattern_eq :
    destructuringPattern signature =
      .mapping ((textExpr bucketKey, .capture none none) ::
        (textExpr programKey, .capture none none) ::
        signature.positionalNames.map captureItem)
        (if signature.options.isEmpty then none else some optionsName) := by
  rw [destructuringPattern, Signature.positionalNames, List.map_map]
  rfl

@[simp] theorem captures_destructuringPattern :
    (destructuringPattern signature).captures = capturedNames signature := by
  rw [destructuringPattern_eq, Pattern.captures, capturesItems, capturesItems,
    capturesItems_captureItem, capturedNames, restNames]
  -- The name for the rest is there or not on both sides.
  split <;> rfl

/-- The call hands over what the pattern captures. -/
theorem dispatch_eq :
    dispatch signature =
      .expression (callOf signature.name ((capturedNames signature).map Expr.name)) := by
  rw [dispatch, capturedNames, Signature.positionalNames, restNames, List.map_append, List.map_map]
  split <;> rfl

@[simp] theorem bound_dispatch (published : Published) :
    (dispatch signature).bound published = [] := by
  simp [dispatch_eq, Stmt.bound, callOf, Call.ofName, Call.toExpr, Expr.assigned,
    assignedKeywords, List.flatMap_map]

@[simp] theorem bound_mismatch (published : Published) : mismatch.bound published = [] := by
  simp [mismatch, Stmt.bound, callOf, Call.ofName, Call.toExpr, Expr.assigned, assignedKeywords,
    assignedOption, textExpr]

/-- The match of the handler. -/
def handlerMatch (signature : Signature) : Stmt :=
  .matchBlock (.name argvName)
    [{ pattern := destructuringPattern signature, body := [dispatch signature] },
      { pattern := .capture none none, body := [mismatch] }]

/-- The handler as a scope. -/
def handlerScope (signature : Signature) : Enclosing where
  head := { name := handlerName, parameters := { regular := [{ name := argvName }] } }
  body := [handlerMatch signature]

theorem handler_eq_toStmt : handler signature = (handlerScope signature).toStmt :=
  rfl

/-- The names that are local to the handler. -/
theorem locals_handlerScope (published : Published) :
    (handlerScope signature).locals published = argvName :: capturedNames signature := by
  simp [handlerScope, handlerMatch, Enclosing.locals, Parameters.names, Stmt.bound, boundArms,
    Pattern.captures, capturesOption, assignedOption, Expr.assigned]

namespace Signature.Accepted

variable (accepted : signature.Accepted)

include accepted

/-- No two captures of the handler share a name. -/
theorem capturedNames_nodup : (capturedNames signature).Nodup := by
  rw [capturedNames, List.nodup_append]
  refine ⟨accepted.positional_nodup, ?_, ?_⟩
  · unfold restNames
    split <;> simp
  -- The name for the rest is reserved, and no positional has a reserved name.
  · rintro name member _ rest rfl
    have unreserved := accepted.positional_unreserved name member
    exact unreserved (List.mem_append_right _ rest)

/-- The handler does not bind the name of the function that it calls. -/
theorem name_notMem_locals_handlerScope (published : Published) :
    signature.name ∉ (handlerScope signature).locals published := by
  have unshadowed := accepted.name_unshadowed
  rw [shadowingNames, List.mem_append, not_or] at unshadowed
  rw [locals_handlerScope, List.mem_cons, capturedNames, List.mem_append]
  rintro (same | positional | rest)
  · exact unshadowed.1 (by simp [same])
  · have unreserved := accepted.positional_unreserved _ positional
    exact unreserved (by simp [positionalReserved])
  · exact unshadowed.2 rest

/-- The keys of the handler's pattern are distinct. -/
theorem keys_nodup : (bucketKey :: programKey :: signature.positionalNames).Nodup := by
  -- One of the two keys is reserved, and the other is no identifier that a positional could have.
  have bucket : bucketKey ∉ signature.positionalNames := fun member =>
    accepted.positional_unreserved _ member (by simp [positionalReserved])
  have program : programKey ∉ signature.positionalNames := fun member =>
    ne_of_isBindable (accepted.positional_bindable _ member) (by decide) rfl
  have apart : bucketKey ≠ programKey := by decide
  simp [accepted.positional_nodup, bucket, program, apart]

end Signature.Accepted

end EntryPoint
