/-
# What the handler calls

The pattern of the handler, its captures, the capture of the rest and the
arguments of the call are written by different definitions. They fit together
because the names of an accepted signature are apart from each other and from the
names that the handler uses itself. On parsed arguments with all keys the handler
makes one call: of the function, with the positionals in order and then with all
that is left.

The check of a signature takes the name of the debugging constant for a name like any
other. As a positional it keeps the handler from being compiled, and as the function
it stands for what cannot be called, so that nothing is called in either case.

## Main definitions

* `CallsFunction` - the call that a run should make on parsed arguments.
* `Signature.DebugFree` - neither function nor positional has the name of the constant.

## Main results

* `bindings_destructuringPattern` - what the pattern of the handler binds.
* `runFunction_handler_of_bindings` - what the handler does when its pattern matches.
* `handler_calls_function_iff` - when it makes the call on parsed arguments with all keys.
-/

import EntryPoint.Proofs.Callback.Execution
import EntryPoint.Proofs.Callback.Names

namespace EntryPoint

open Syntax Text Execution

variable {V : Type} {signature : Signature}

/-! ### Items with distinct keys -/

/-- Where keys are distinct, each item is found under its key, whatever stands behind. -/
theorem lookup_append_of_mem {items : List (String × V)} (nodup : (items.map Prod.fst).Nodup)
    (behind : List (String × V)) {item : String × V} (member : item ∈ items) :
    (items ++ behind).lookup item.1 = some item.2 := by
  induction items with
  | nil => cases member
  | cons first rest ih =>
    rw [List.map_cons, List.nodup_cons] at nodup
    rcases List.mem_cons.mp member with rfl | member
    · exact List.lookup_cons_self
    -- Keys are distinct, so a later item is not hidden by the first one.
    · have other : item.1 ≠ first.1 := by
        intro same
        exact nodup.1 (same ▸ List.mem_map_of_mem member)
      rw [List.cons_append, List.lookup_cons, beq_eq_false_iff_ne.mpr other]
      exact ih nodup.2 member

namespace Execution

theorem Mapping.exists_get?_of_mem_keys {mapping : Mapping V} {key : String}
    (member : key ∈ mapping.keys) : ∃ value, mapping.get? key = some value := by
  obtain ⟨item, inside, rfl⟩ := List.mem_map.mp member
  have found := lookup_append_of_mem mapping.nodup [] inside
  rw [List.append_nil] at found
  exact ⟨item.2, found⟩

/-- Names that a mapping has as keys come with their values. -/
theorem Mapping.exists_items {mapping : Mapping V} {names : List String}
    (present : ∀ name ∈ names, name ∈ mapping.keys) :
    ∃ items : List (String × V), items.map Prod.fst = names ∧
      ∀ item ∈ items, mapping.get? item.1 = some item.2 := by
  induction names with
  | nil => exact ⟨[], rfl, fun _ member => absurd member List.not_mem_nil⟩
  | cons first rest ih =>
    rw [List.forall_mem_cons] at present
    obtain ⟨value, found⟩ := Mapping.exists_get?_of_mem_keys present.1
    obtain ⟨items, rfl, rest⟩ := ih present.2
    exact ⟨(first, value) :: items, rfl, List.forall_mem_cons.mpr ⟨found, rest⟩⟩

/-! ### Names and calls -/

variable {shown : Datum V → Option String} {frame : Frame V}

/-- A name that is not local leads out of the function, unless it is that of the constant. -/
theorem Frame.read_outer {name : String} (apart : name ≠ debugName)
    (outer : name ∉ frame.locals) : frame.read name = .ok (.outer name) := by
  rw [Frame.read, if_neg apart, if_neg (by simpa using outer)]

/-- In a function that is compiled, a local name that is bound stands for what it is bound to. -/
theorem Frame.read_local {name : String} {datum : Datum V} (compiled : debugName ∉ frame.locals)
    (here : name ∈ frame.locals) (bound : frame.values.lookup name = some datum) :
    frame.read name = .ok datum := by
  have apart : name ≠ debugName := fun same => compiled (same ▸ here)
  rw [Frame.read, if_neg apart, if_pos (by simpa using here), bound]

/-- Names are evaluated in order. -/
theorem Frame.mapM_evaluate_names {bound : List (String × Datum V)}
    (reads : ∀ pair ∈ bound, frame.read pair.1 = .ok pair.2) :
    (bound.map fun pair => Expr.name pair.1).mapM (frame.evaluate shown) =
      .ok (bound.map (·.2)) := by
  induction bound with
  -- The invariant is about what is still to be evaluated: reading a name changes nothing.
  | nil => rfl
  | cons first rest ih =>
    rw [List.forall_mem_cons] at reads
    rw [List.map_cons, List.mapM_cons, ih reads.2, Frame.evaluate, reads.1]
    rfl

/-- The call of a name that is not local on names that are bound. The constant cannot be called. -/
theorem Frame.invoke_callOf {name : String} {bound : List (String × Datum V)}
    (outer : name ∉ frame.locals) (reads : ∀ pair ∈ bound, frame.read pair.1 = .ok pair.2) :
    frame.invoke shown (callOf name (bound.map fun pair => .name pair.1)) =
      if name = debugName then .error (.uncallable .debugged)
      else .ok ⟨.outer name, bound.map (·.2)⟩ := by
  rw [callOf, Call.ofName, Call.toExpr, Frame.invoke, Frame.mapM_evaluate_names reads,
    Frame.evaluate]
  split_ifs with constant
  · rw [Frame.read, if_pos constant]
    rfl
  · rw [Frame.read_outer constant outer]
    rfl

/-- A single statement is run by itself. -/
theorem runBody_singleton (locals : List String) (values : List (String × Datum V)) (stmt : Stmt) :
    runBody shown locals values [stmt] = runStmt shown locals values stmt := by
  rw [runBody]
  -- What the run of the statement comes to does not matter, only whether it halts.
  generalize runStmt shown locals values stmt = run
  obtain ⟨values, calls, halt⟩ := run
  cases halt with
  | some _ => rfl
  | none => simp [runBody]

/-! ### Captures -/

theorem mapM_keyText?_captureItem (names : List String) :
    (names.map captureItem).mapM (keyText? ·.1) = some names := by
  induction names with
  | nil => rfl
  | cons first rest ih => rw [List.map_cons, List.mapM_cons, ih]; rfl

/-- An item whose key is present binds what its pattern binds, in front of the other items. -/
theorem itemBindings_cons {mapping : Mapping V} {key : String} {value : V} {pattern : Pattern}
    {rest : List (Expr × Pattern)} {here further : List (String × Datum V)}
    (present : mapping.get? key = some value)
    (matched : Pattern.bindings (.given value) pattern = .ok (some here))
    (others : itemBindings mapping rest = .ok (some further)) :
    itemBindings mapping ((textExpr key, pattern) :: rest) = .ok (some (here ++ further)) := by
  have found : (keyText? (textExpr key)).bind mapping.get? = some value := present
  rw [itemBindings, found]
  dsimp only
  rw [matched, others]
  rfl

/-- Captures of keys that are present bind their values in order. -/
theorem itemBindings_captureItem {mapping : Mapping V} {items : List (String × V)}
    (found : ∀ item ∈ items, mapping.get? item.1 = some item.2) :
    itemBindings mapping ((items.map Prod.fst).map captureItem) =
      .ok (some (items.map fun item => (item.1, .given item.2))) := by
  induction items with
  | nil => rfl
  | cons first rest ih =>
    rw [List.forall_mem_cons] at found
    have captured : Pattern.bindings (.given first.2) (.capture none (some first.1)) =
        .ok (some [(first.1, .given first.2)]) := rfl
    exact itemBindings_cons found.1 captured (ih found.2)

/-- A mapping pattern with distinct keys that are present binds what its items bind and the rest. -/
theorem bindings_mapping {mapping : Mapping V} {items : List (Expr × Pattern)}
    {rest : Option String} {keys : List String} {bound : List (String × Datum V)}
    (texts : items.mapM (keyText? ·.1) = some keys) (distinct : keys.Nodup)
    (matched : itemBindings mapping items = .ok (some bound)) :
    Pattern.bindings (.mapping mapping) (.mapping items rest) =
      .ok (some (bound ++ rest.toList.map (·, .mapping (mapping.without keys)))) := by
  simp only [Pattern.bindings, texts]
  rw [if_pos distinct, matched]
  rfl

end Execution

/-! ### The run of the handler -/

/-- What is left of parsed arguments for the function's options. -/
def remaining (signature : Signature) (parsed : Mapping V) : Mapping V :=
  parsed.without (bucketKey :: programKey :: signature.positionalNames)

/-- What the captures of the handler bind: the values of the positionals, and what is left. -/
def capturedData (signature : Signature) (parsed : Mapping V) (items : List (String × V)) :
    List (String × Datum V) :=
  items.map (fun item => (item.1, .given item.2)) ++
    (restNames signature).map (·, .mapping (remaining signature parsed))

theorem map_fst_capturedData {parsed : Mapping V} {items : List (String × V)}
    (named : items.map Prod.fst = signature.positionalNames) :
    (capturedData signature parsed items).map Prod.fst = capturedNames signature := by
  simp [capturedData, capturedNames, ← named, Function.comp_def]

/-- What the pattern of the handler binds on parsed arguments with all its keys. -/
theorem bindings_destructuringPattern (accepted : signature.Accepted) {parsed : Mapping V}
    (bucket : bucketKey ∈ parsed.keys) (program : programKey ∈ parsed.keys)
    {items : List (String × V)} (named : items.map Prod.fst = signature.positionalNames)
    (found : ∀ item ∈ items, parsed.get? item.1 = some item.2) :
    Pattern.bindings (.mapping parsed) (destructuringPattern signature) =
      .ok (some (capturedData signature parsed items)) := by
  -- The two keys of the parser itself are only asked for; what they stand for is not captured.
  obtain ⟨bucketValue, bucketFound⟩ := Mapping.exists_get?_of_mem_keys bucket
  obtain ⟨programValue, programFound⟩ := Mapping.exists_get?_of_mem_keys program
  have texts : (((textExpr bucketKey, .capture none none) ::
      (textExpr programKey, .capture none none) ::
      signature.positionalNames.map captureItem : List (Expr × Pattern)).mapM (keyText? ·.1)) =
      some (bucketKey :: programKey :: signature.positionalNames) := by
    rw [List.mapM_cons, List.mapM_cons, mapM_keyText?_captureItem]
    rfl
  have captured := itemBindings_captureItem found
  rw [named] at captured
  rw [destructuringPattern_eq, bindings_mapping texts accepted.keys_nodup
    (itemBindings_cons bucketFound rfl (itemBindings_cons programFound rfl captured))]
  unfold capturedData restNames
  split <;> rfl

theorem functionLocals_handler :
    functionLocals (handler signature) = argvName :: capturedNames signature :=
  locals_handlerScope _

theorem argvName_mem_functionLocals : argvName ∈ functionLocals (handler signature) := by
  rw [functionLocals_handler]
  exact List.mem_cons_self

/-- Besides its own two names, the names of the handler are those of the positionals. -/
theorem mem_functionLocals_handler_iff {name : String} (argv : name ≠ argvName)
    (options : name ≠ optionsName) :
    name ∈ functionLocals (handler signature) ↔ name ∈ signature.positionalNames := by
  have rest : name ∉ restNames signature := by
    unfold restNames
    split <;> simp [options]
  rw [functionLocals_handler, List.mem_cons, capturedNames, List.mem_append]
  simp [argv, rest]

/-- The handler is compiled unless a positional has the name of the constant. -/
theorem debugName_mem_functionLocals_iff :
    debugName ∈ functionLocals (handler signature) ↔ debugName ∈ signature.positionalNames :=
  mem_functionLocals_handler_iff (by decide) (by decide)

theorem runFunction_handler_of_uncompiled (shown : Datum V → Option String) (argument : Datum V)
    (constant : debugName ∈ signature.positionalNames) :
    runFunction shown (handler signature) argument = .stopped [] .uncompiled :=
  if_pos (debugName_mem_functionLocals_iff.mpr constant)

/-- The handler, if it is compiled, tries the arms of its match on its argument. -/
theorem runFunction_handler (shown : Datum V → Option String) (argument : Datum V)
    (compiled : debugName ∉ functionLocals (handler signature)) :
    runFunction shown (handler signature) argument =
      runArms shown (functionLocals (handler signature)) [(argvName, argument)] argument
        [{ pattern := destructuringPattern signature, body := [dispatch signature] },
          { pattern := .capture none none, body := [mismatch] }] := by
  have read : Frame.evaluate shown ⟨functionLocals (handler signature), [(argvName, argument)]⟩
      (.name argvName) = .ok argument := by
    rw [Frame.evaluate]
    exact Frame.read_local compiled argvName_mem_functionLocals List.lookup_cons_self
  have body : runFunction shown (handler signature) argument =
      runBody shown (functionLocals (handler signature)) [(argvName, argument)]
        [handlerMatch signature] := if_neg compiled
  rw [body, runBody_singleton, handlerMatch, runStmt, read]

/-- When its pattern matches, the handler calls the function with what is captured, unless the
function has the name of the constant. -/
theorem runFunction_handler_of_bindings (accepted : signature.Accepted)
    (shown : Datum V → Option String) {argument : Datum V} {bound : List (String × Datum V)}
    (compiled : debugName ∉ functionLocals (handler signature))
    (matched : Pattern.bindings argument (destructuringPattern signature) = .ok (some bound))
    (named : bound.map Prod.fst = capturedNames signature) :
    runFunction shown (handler signature) argument =
      if signature.name = debugName then
        .stopped (bound ++ [(argvName, argument)]) (.uncallable .debugged)
      else
        { values := bound ++ [(argvName, argument)]
          calls := [⟨.outer signature.name, bound.map Prod.snd⟩] } := by
  -- What is captured is bound in front of the argument, so a captured name never reads as that.
  have distinct : (bound.map Prod.fst).Nodup := named ▸ accepted.capturedNames_nodup
  have reads : ∀ pair ∈ bound, Frame.read
      ⟨functionLocals (handler signature), bound ++ [(argvName, argument)]⟩ pair.1 =
        .ok pair.2 := by
    intro pair member
    refine Frame.read_local compiled ?_ (lookup_append_of_mem distinct _ member)
    rw [functionLocals_handler, ← named]
    exact List.mem_cons_of_mem _ (List.mem_map_of_mem member)
  have called : Frame.invoke shown
      ⟨functionLocals (handler signature), bound ++ [(argvName, argument)]⟩
      (callOf signature.name (bound.map fun pair => .name pair.1)) =
        if signature.name = debugName then .error (.uncallable .debugged)
        else .ok ⟨.outer signature.name, bound.map Prod.snd⟩ :=
    Frame.invoke_callOf (accepted.name_notMem_locals_handlerScope _) reads
  rw [runFunction_handler shown argument compiled, runArms, captures_destructuringPattern,
    if_pos accepted.capturedNames_nodup, matched]
  dsimp only
  rw [runBody_singleton, dispatch_eq, ← named, List.map_map, runStmt, Function.comp_def, called]
  split_ifs <;> rfl

/-- A run makes one call on parsed arguments and comes to its end: of the function, with the values
of the positionals in order and then, if there are options, with all items under other keys than
those of the program and the positionals. -/
def CallsFunction (signature : Signature) (parsed : Mapping V) (run : Run V) : Prop :=
  ∃ (values : List V) (rest : Mapping V),
    signature.positionalNames.map parsed.get? = values.map some ∧
    rest.items = parsed.items.filter (fun item => item.1 ≠ bucketKey ∧ item.1 ≠ programKey ∧
      item.1 ∉ signature.positionalNames) ∧
    run.calls = [⟨.outer signature.name,
      values.map .given ++ if signature.options.isEmpty then [] else [.mapping rest]⟩] ∧
    run.halt = none

/-- Neither the function nor a positional has the name of the constant. -/
def Signature.DebugFree (signature : Signature) : Prop :=
  debugName ∉ signature.name :: signature.positionalNames

theorem Signature.debugFree_iff :
    signature.DebugFree ↔ signature.name ≠ debugName ∧ debugName ∉ signature.positionalNames := by
  rw [DebugFree, List.mem_cons, not_or, eq_comm (a := debugName)]

/-- On parsed arguments with all keys, a handler without the constant makes the call. -/
theorem callsFunction_of_debugFree (accepted : signature.Accepted) (shown : Datum V → Option String)
    (free : signature.DebugFree) {parsed : Mapping V} (bucket : bucketKey ∈ parsed.keys)
    (program : programKey ∈ parsed.keys)
    (positionals : ∀ name ∈ signature.positionalNames, name ∈ parsed.keys) :
    CallsFunction signature parsed
      (runFunction shown (handler signature) (.mapping parsed)) := by
  obtain ⟨function, compiled⟩ := Signature.debugFree_iff.mp free
  rw [← debugName_mem_functionLocals_iff] at compiled
  obtain ⟨items, named, found⟩ := Mapping.exists_items positionals
  have matched := bindings_destructuringPattern accepted bucket program named found
  refine ⟨items.map Prod.snd, remaining signature parsed, ?_, ?_, ?_⟩
  · rw [← named, List.map_map, List.map_map]
    exact List.map_congr_left found
  · simp [remaining, Mapping.without]
  · rw [runFunction_handler_of_bindings accepted shown compiled matched
      (map_fst_capturedData named), if_neg function]
    -- What is left is handed on only if the function takes options.
    have data : (capturedData signature parsed items).map Prod.snd =
        (items.map Prod.snd).map .given ++
          if signature.options.isEmpty then [] else [.mapping (remaining signature parsed)] := by
      unfold capturedData restNames
      split <;> simp
    exact ⟨by rw [data], rfl⟩

/-- On parsed arguments with all keys, a handler with the constant calls nothing and is stopped. -/
theorem calls_eq_nil_of_not_debugFree (accepted : signature.Accepted)
    (shown : Datum V → Option String) (constant : ¬signature.DebugFree) {parsed : Mapping V}
    (bucket : bucketKey ∈ parsed.keys) (program : programKey ∈ parsed.keys)
    (positionals : ∀ name ∈ signature.positionalNames, name ∈ parsed.keys) :
    (runFunction shown (handler signature) (.mapping parsed)).calls = [] ∧
      (runFunction shown (handler signature) (.mapping parsed)).halt ≠ none := by
  by_cases positional : debugName ∈ signature.positionalNames
  · rw [runFunction_handler_of_uncompiled shown _ positional]
    exact ⟨rfl, Option.some_ne_none _⟩
  · have function : signature.name = debugName := by
      by_contra other
      exact constant (Signature.debugFree_iff.mpr ⟨other, positional⟩)
    obtain ⟨items, named, found⟩ := Mapping.exists_items positionals
    have matched := bindings_destructuringPattern accepted bucket program named found
    rw [runFunction_handler_of_bindings accepted shown
      (mt debugName_mem_functionLocals_iff.mp positional) matched (map_fst_capturedData named),
      if_pos function]
    exact ⟨rfl, Option.some_ne_none _⟩

/-- The function is not a name of the handler. On parsed arguments with all keys, the handler makes
one call: of the function, with the values of the positionals in order and then, if there are
options, with all items under other keys. It does so exactly if neither the function nor a
positional has the name of the constant; otherwise it calls nothing and is stopped. -/
theorem handler_calls_function_iff (shown : Datum V → Option String)
    (accepted : checkSignature signature = .ok ()) (parsed : Mapping V)
    (bucket : bucketKey ∈ parsed.keys) (program : programKey ∈ parsed.keys)
    (positionals : ∀ name ∈ signature.positionalNames, name ∈ parsed.keys) :
    signature.name ∉ functionLocals (handler signature) ∧
      (CallsFunction signature parsed
          (runFunction shown (handler signature) (.mapping parsed)) ↔ signature.DebugFree) ∧
      (¬signature.DebugFree →
        (runFunction shown (handler signature) (.mapping parsed)).calls = [] ∧
          (runFunction shown (handler signature) (.mapping parsed)).halt ≠ none) := by
  have accepted := checkSignature_eq_ok_iff.mp accepted
  have stopped : ¬signature.DebugFree → _ := fun constant =>
    calls_eq_nil_of_not_debugFree accepted shown constant bucket program positionals
  refine ⟨accepted.name_notMem_locals_handlerScope _, ⟨fun calls => ?_, fun free => ?_⟩, stopped⟩
  · by_contra constant
    obtain ⟨-, -, -, -, -, ended⟩ := calls
    exact (stopped constant).2 ended
  · exact callsFunction_of_debugFree accepted shown free bucket program positionals

/-- A function of two positionals with an option. -/
def copying : Signature where
  name := "copy"
  description := textExpr "Copy a file."
  positionals :=
    [⟨"source", defaultCall "positional" "source", true⟩,
      ⟨"target", defaultCall "positional" "target", true⟩]
  options := [⟨"force", defaultCall "option" "force"⟩]

/-- Parsed arguments in another order, with items that no positional takes. -/
def copyingArguments : Mapping Nat where
  items := [("depth", 4), ("$0", 0), ("target", 2), ("force", 3), ("_", 5), ("source", 1)]
  nodup := by decide

theorem handler_copying_calls :
    checkSignature copying = .ok () ∧ bucketKey ∈ copyingArguments.keys ∧
      programKey ∈ copyingArguments.keys ∧
      (∀ name ∈ copying.positionalNames, name ∈ copyingArguments.keys) ∧
      ∃ (values : List Nat) (rest : Mapping Nat),
        [some 1, some 2] = values.map some ∧ rest.items = [("depth", 4), ("force", 3)] ∧
        (runFunction (fun _ => none) (handler copying) (.mapping copyingArguments)).calls =
          [⟨.outer "copy", values.map .given ++ [.mapping rest]⟩] := by
  have accepted : checkSignature copying = .ok () := rfl
  have bucket : bucketKey ∈ copyingArguments.keys := by decide
  have program : programKey ∈ copyingArguments.keys := by decide
  have positionals : ∀ name ∈ copying.positionalNames, name ∈ copyingArguments.keys := by decide
  have free : copying.DebugFree := by
    rw [Signature.DebugFree]
    decide
  obtain ⟨-, calls, -⟩ :=
    handler_calls_function_iff (fun _ => none) accepted copyingArguments bucket program positionals
  obtain ⟨values, rest, found, left, called, -⟩ := calls.mpr free
  exact ⟨accepted, bucket, program, positionals, values, rest, found, left, called⟩

/-- A function with a positional that has the name of the constant. -/
def debugging : Signature :=
  { copying with
    positionals := [⟨"__debug__", defaultCall "positional" "__debug__", true⟩] }

/-- Parsed arguments with a value for that positional. -/
def debuggingArguments : Mapping Nat where
  items := [("_", 0), ("$0", 1), ("__debug__", 2)]
  nodup := by decide

/-- The positional is accepted and given, and the function is not called. -/
theorem debugging_not_called :
    checkSignature debugging = .ok () ∧
      (∀ key ∈ bucketKey :: programKey :: debugging.positionalNames,
        key ∈ debuggingArguments.keys) ∧
      (runFunction (fun _ => none) (handler debugging) (.mapping debuggingArguments)).calls = [] ∧
      (runFunction (fun _ => none) (handler debugging) (.mapping debuggingArguments)).halt =
        some .uncompiled :=
  ⟨rfl, by decide, rfl, rfl⟩

end EntryPoint
