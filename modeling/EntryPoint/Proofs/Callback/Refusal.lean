/-
# What the handler refuses

Whatever is no mapping, and parsed arguments that lack a key of the handler's pattern,
are left to its last arm. That arm does not call the function; it raises an exception
with a text that shows the argument, as far as the argument can be shown. The
exception is read by its name like all else, so that a positional of that name stands
in front of it: the name is then local to the handler and not bound, and reading it
stops the run.

## Main definitions

* `Signature.handlerKeys` - the keys that the pattern of the handler asks for.
* `Datum.HasKeys` - a mapping with given keys.
* `refusal` - the exception with its text.

## Main results

* `bindings_destructuringPattern_eq_none` - what the pattern of the handler does not match.
* `runFunction_handler_of_unmatched` - the run of the handler on what its pattern does not match.
-/

import EntryPoint.Proofs.Association
import EntryPoint.Proofs.Callback.Dispatch

namespace EntryPoint

open Syntax Text Execution

variable {V : Type} {signature : Signature} {argument : Datum V}

/-! ### Keys -/

/-- The keys that the pattern of the handler asks for. -/
def Signature.handlerKeys (signature : Signature) : List String :=
  bucketKey :: programKey :: signature.positionalNames

namespace Execution

/-- A mapping that has given keys. -/
def Datum.HasKeys (keys : List String) : Datum V → Prop
  | .mapping items => ∀ key ∈ keys, key ∈ items.keys
  | _ => False

/-- The item of a mapping pattern that asks for a key and captures it under a name, if there is
one. -/
def askItem (key : String) (name : Option String) : Expr × Pattern :=
  (textExpr key, .capture none name)

theorem mapM_keyText?_askItem (asked : List (String × Option String)) :
    (asked.map fun item => askItem item.1 item.2).mapM (keyText? ·.1) =
      some (asked.map Prod.fst) := by
  induction asked with
  | nil => rfl
  | cons first rest ih =>
    rw [List.map_cons, List.mapM_cons, ih]
    rfl

/-- An item whose key is missing keeps all items from binding. -/
theorem itemBindings_cons_of_notMem {mapping : Mapping V} {key : String} {pattern : Pattern}
    {rest : List (Expr × Pattern)} (absent : key ∉ mapping.keys) :
    itemBindings mapping ((textExpr key, pattern) :: rest) = .ok none := by
  have missing : (keyText? (textExpr key)).bind mapping.get? = none :=
    Association.lookup_eq_none_of_notMem absent
  rw [itemBindings, missing]

/-- So does an item behind one that captures what is there. -/
theorem itemBindings_cons_of_none {mapping : Mapping V} {key : String} {name : Option String}
    {rest : List (Expr × Pattern)} (others : itemBindings mapping rest = .ok none) :
    itemBindings mapping (askItem key name :: rest) = .ok none := by
  rw [askItem, itemBindings]
  cases (keyText? (textExpr key)).bind mapping.get? with
  | none => rfl
  | some value =>
    rw [others]
    rfl

/-- A missing key keeps all items from binding, wherever it stands among them. -/
theorem itemBindings_askItem_eq_none {mapping : Mapping V} {asked : List (String × Option String)}
    (missing : ∃ item ∈ asked, item.1 ∉ mapping.keys) :
    itemBindings mapping (asked.map fun item => askItem item.1 item.2) = .ok none := by
  induction asked with
  | nil =>
    obtain ⟨item, member, -⟩ := missing
    cases member
  | cons first rest ih =>
    rw [List.map_cons]
    obtain ⟨item, member, absent⟩ := missing
    rcases List.mem_cons.mp member with rfl | behind
    · exact itemBindings_cons_of_notMem absent
    · exact itemBindings_cons_of_none (ih ⟨item, behind, absent⟩)

/-- A pattern that asks for distinct keys matches no mapping that lacks one of them, and nothing but
mappings. -/
theorem bindings_mapping_eq_none {asked : List (String × Option String)} {rest : Option String}
    (distinct : (asked.map Prod.fst).Nodup) (incomplete : ¬argument.HasKeys (asked.map Prod.fst)) :
    Pattern.bindings argument (.mapping (asked.map fun item => askItem item.1 item.2) rest) =
      .ok none := by
  -- A mapping lacks a key that is asked for; anything else is no mapping and does not match.
  cases argument with
  | mapping mapping =>
    have missing : ∃ item ∈ asked, item.1 ∉ mapping.keys := by
      by_contra complete
      refine incomplete fun key member => ?_
      obtain ⟨item, asks, rfl⟩ := List.mem_map.mp member
      by_contra absent
      exact complete ⟨item, asks, absent⟩
    simp only [Pattern.bindings, mapM_keyText?_askItem]
    rw [if_pos distinct, itemBindings_askItem_eq_none missing]
    rfl
  | given value => simp only [Pattern.bindings, mapM_keyText?_askItem]
  | text value => simp only [Pattern.bindings, mapM_keyText?_askItem]
  | outer name => simp only [Pattern.bindings, mapM_keyText?_askItem]
  | debugged => simp only [Pattern.bindings, mapM_keyText?_askItem]

end Execution

/-- The pattern of the handler does not match what lacks one of its keys. -/
theorem bindings_destructuringPattern_eq_none (accepted : signature.Accepted)
    (incomplete : ¬argument.HasKeys signature.handlerKeys) :
    Pattern.bindings argument (destructuringPattern signature) = .ok none := by
  have keys : ((bucketKey, none) :: (programKey, none) ::
      signature.positionalNames.map fun name => (name, some name)).map Prod.fst =
        signature.handlerKeys := by
    simp [Signature.handlerKeys, Function.comp_def]
  have pattern : destructuringPattern signature = .mapping
      (((bucketKey, none) :: (programKey, none) ::
        signature.positionalNames.map fun name => (name, some name)).map
          fun item => askItem item.1 item.2)
      (if signature.options.isEmpty then none else some optionsName) := by
    rw [destructuringPattern_eq, List.map_cons, List.map_cons, List.map_map]
    rfl
  rw [pattern]
  exact bindings_mapping_eq_none (keys ▸ accepted.keys_nodup) (keys ▸ incomplete)

/-! ### The last arm -/

/-- The name of the exception that the handler raises. -/
def refusalName : String := "TypeError"

/-- The exception that the handler raises, with a text that ends as given. -/
def refusal (shown : String) : Invocation V where
  callee := .outer refusalName
  args := [.text (mismatchMessage ++ shown)]

theorem refusalName_mem_functionLocals_iff :
    refusalName ∈ functionLocals (handler signature) ↔
      refusalName ∈ signature.positionalNames :=
  mem_functionLocals_handler_iff (by decide) (by decide)

section Compiled

variable (compiled : debugName ∉ functionLocals (handler signature))
  (shown : Datum V → Option String)

include compiled

/-- The text of the exception shows the argument, if that can be shown. -/
theorem evaluate_refusal :
    Frame.evaluate shown ⟨functionLocals (handler signature), [(argvName, argument)]⟩
      (.joined [textExpr mismatchMessage, .formatted (.name argvName) (some 'r') none]) =
        match shown argument with
        | some text => .ok (.text (mismatchMessage ++ text))
        | none => .error (.unshown argument) := by
  have read : Frame.read ⟨functionLocals (handler signature), [(argvName, argument)]⟩ argvName =
      pure argument :=
    Frame.read_local compiled argvName_mem_functionLocals List.lookup_cons_self
  simp only [Frame.evaluate, Frame.evaluateParts, textExpr, read, pure_bind]
  cases shown argument with
  | none => rfl
  | some text =>
    change Except.ok (Datum.text (mismatchMessage ++ (text ++ ""))) = _
    rw [String.append_empty]

/-- The exception is made by a call of its name, which a positional may hide. The name is read
before the argument is shown. -/
theorem invoke_refusal :
    Frame.invoke shown ⟨functionLocals (handler signature), [(argvName, argument)]⟩
      (callOf refusalName
        [.joined [textExpr mismatchMessage, .formatted (.name argvName) (some 'r') none]]) =
      if refusalName ∈ signature.positionalNames then .error (.unbound refusalName)
      else
        match shown argument with
        | some text => .ok (refusal text)
        | none => .error (.unshown argument) := by
  rw [callOf, Call.ofName, Call.toExpr, Frame.invoke, List.mapM_cons,
    evaluate_refusal compiled shown, Frame.evaluate]
  split_ifs with positional
  -- A positional of that name makes it local, and nothing has been captured yet.
  · have hidden := refusalName_mem_functionLocals_iff.mpr positional
    have unread : Frame.read ⟨functionLocals (handler signature), [(argvName, argument)]⟩
        refusalName = .error (.unbound refusalName) := by
      rw [Frame.read, if_neg (by decide), if_pos (by simpa using hidden)]
      rfl
    rw [unread]
    rfl
  · rw [Frame.read_outer (by decide) (mt refusalName_mem_functionLocals_iff.mp positional)]
    cases shown argument <;> rfl

/-- On what its pattern does not match, the handler raises the exception, unless a positional has
the name of it or the argument cannot be shown. -/
theorem runFunction_handler_of_unmatched (accepted : signature.Accepted)
    (unmatched : Pattern.bindings argument (destructuringPattern signature) = .ok none) :
    runFunction shown (handler signature) argument =
      if refusalName ∈ signature.positionalNames then
        .stopped [(argvName, argument)] (.unbound refusalName)
      else
        match shown argument with
        | some text =>
          { values := [(argvName, argument)]
            calls := [refusal text]
            halt := some (.raised (refusal text)) }
        | none => .stopped [(argvName, argument)] (.unshown argument) := by
  have arm : runFunction shown (handler signature) argument =
      runStmt shown (functionLocals (handler signature)) [(argvName, argument)] mismatch := by
    -- The first arm does not match, and the second one matches everything and binds nothing.
    have captures : (Pattern.capture none none).captures.Nodup := List.nodup_nil
    have wildcard : Pattern.bindings argument (.capture none none) = .ok (some []) := rfl
    rw [runFunction_handler shown argument compiled, runArms, captures_destructuringPattern,
      if_pos accepted.capturedNames_nodup, unmatched]
    dsimp only
    rw [runArms, if_pos captures, wildcard]
    exact runBody_singleton _ _ _
  have raised : mismatch = .raise (some (callOf refusalName
      [.joined [textExpr mismatchMessage, .formatted (.name argvName) (some 'r') none]])) none :=
    rfl
  rw [arm, raised, runStmt, invoke_refusal compiled shown]
  split_ifs
  · rfl
  · cases shown argument <;> rfl

end Compiled

end EntryPoint
