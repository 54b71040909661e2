/-
# The exception of the handler

The handler refuses what lacks one of its keys by an exception that it reads by name.
In a generated module that name should lead out of the module, to the exception that
is built in. No check of a signature, of options or of a render has that name among
those that it reserves, so the conditions are stated here. A name that the function's
own module binds, or hands to itself from inside of a function, counts as bound.

Nor do the checks reserve the name of the debugging constant. A module that binds it is
not compiled, and so nothing in it is ever run. Of code that is given, such as the module
of the function, only the names that it binds for the whole module are looked at: the
functions and classes in it are taken to be compiled.

## Main definitions

* `Refuses` - a run does not call the function and raises the built-in exception.
* `NameApart` - no binding stands in front of a name.
* `RefusalApart` - none stands in front of the exception, and none is of the constant.

## Main results

* `refuses_iff` - when the run of the handler is a refusal, by the place of the handler.
* `resolve_eq_none_iff_nameApart` - when a name leads out of the module that is rendered.
* `handler_refuses_iff` - when the handler of a generated module refuses what it should.
-/

import EntryPoint.Proofs.Callback.Refusal
import EntryPoint.Proofs.Module.Inlining
import EntryPoint.Proofs.Module.OwnNames

namespace EntryPoint

open Syntax Text Execution

variable {V : Type} {published : Published} {site : Site} {signature : Signature}
  {options : Options} {context : Context} {declared : List Link} {imports module : List Stmt}
  {file name : String} {argument : Datum V}

/-! ### Refusals -/

/-- No scope around a place binds the constant, which no code that is compiled does. What another
module publishes is bound only when the code is run. -/
def ConstantUnbound (module : List Stmt) (around : List Enclosing) : Prop :=
  resolve (fun _ _ => []) module around debugName = none

/-- A run refuses its argument: it does not call the function of the signature, and it ends with the
exception that is built in, whose text opens as it should. The code around it is compiled. -/
structure Refuses (published : Published) (module : List Stmt) (around : List Enclosing)
    (signature : Signature) (run : Run V) : Prop where
  compiled : ConstantUnbound module around
  uncalled : ∀ call ∈ run.calls, call.callee ≠ .outer signature.name
  raised : ∃ shown : String,
    run.halt = some (.raised ⟨.outer refusalName, [.text (mismatchMessage ++ shown)]⟩)
  builtIn : Unbound published module around refusalName

/-- What makes the function available does not bind a name: the statements of its module, where
they are inlined, or else the imports of references. -/
def SourceApart (published : Published) (site : Site) (signature : Signature) (context : Context)
    (name : String) : Prop :=
  if context.inlines then ∀ stmt ∈ site.entry, name ∉ stmt.bound published
  else
    (∀ reference ∈ signature.references, name ∉ importedExports reference.2) ∧
      Unpublished published site signature name

/-- Nothing that the user chooses stands in front of a name. -/
structure NameApart (published : Published) (site : Site) (signature : Signature)
    (options : Options) (context : Context) (name : String) : Prop where
  positionals : name ∉ signature.positionalNames
  description : name ∉ signature.description.assigned
  library : options.lib ≠ name
  wrapper : options.functionName ≠ name
  source : SourceApart published site signature context name

/-- No other binding stands in front of the exception, the function is not the exception, and
nothing binds the constant. -/
structure RefusalApart (published : Published) (site : Site) (signature : Signature)
    (options : Options) (context : Context) : Prop where
  function : signature.name ≠ refusalName
  exception : NameApart published site signature options context refusalName
  unhanded : context.inlines → ∀ stmt ∈ site.entry, refusalName ∉ stmt.globals
  constant : NameApart (fun _ _ => []) site signature options context debugName

/-- The handler refuses what its pattern does not match exactly if the argument can be shown, no
positional has the name of the exception or of the constant, the exception is not the function and
leads out of the module, and the code around is compiled. -/
theorem refuses_iff (accepted : signature.Accepted) (shown : Datum V → Option String)
    (incomplete : ¬argument.HasKeys signature.handlerKeys) {around : List Enclosing} :
    Refuses published module around signature (runFunction shown (handler signature) argument) ↔
      signature.name ≠ refusalName ∧ refusalName ∉ signature.positionalNames ∧
        debugName ∉ signature.positionalNames ∧ (shown argument).isSome ∧
          Unbound published module around refusalName ∧ ConstantUnbound module around := by
  by_cases constant : debugName ∈ signature.positionalNames
  · rw [runFunction_handler_of_uncompiled shown argument constant]
    constructor
    · rintro ⟨-, -, ⟨text, raised⟩, -⟩
      cases raised
    · rintro ⟨-, -, free, -⟩
      exact absurd constant free
  rw [runFunction_handler_of_unmatched (mt debugName_mem_functionLocals_iff.mp constant) shown
    accepted (bindings_destructuringPattern_eq_none accepted incomplete)]
  by_cases positional : refusalName ∈ signature.positionalNames
  · rw [if_pos positional]
    constructor
    · rintro ⟨-, -, ⟨text, raised⟩, -⟩
      -- The name is read before it is bound, and that is another exception.
      cases raised
    · rintro ⟨-, free, -⟩
      exact absurd positional free
  rw [if_neg positional]
  cases shown argument with
  | none =>
    constructor
    · rintro ⟨-, -, ⟨text, raised⟩, -⟩
      cases raised
    · rintro ⟨-, -, -, unshown, -⟩
      cases unshown
  | some text =>
    constructor
    · rintro ⟨compiled, uncalled, -, builtIn⟩
      -- To make the exception is itself a call, of the function if that has its name.
      refine ⟨fun same => ?_, positional, constant, rfl, builtIn, compiled⟩
      exact uncalled (refusal text) (List.mem_singleton_self _) (same ▸ rfl)
    · rintro ⟨apart, -, -, -, builtIn, compiled⟩
      refine ⟨compiled, fun call member same => ?_, ⟨text, rfl⟩, builtIn⟩
      obtain rfl := List.mem_singleton.mp member
      exact apart (Datum.outer.inj same).symm

/-! ### The place of the handler -/

/-- A name that the generated code does not bind on its own account. -/
structure Foreign (name : String) : Prop where
  fixed : name ∉ [argvName, optionsName, argsName, builderName, handlerName, "sys", "asyncio",
    "importlib", "__all__", "*"]
  specification : ∀ lib : String, name ≠ "_" ++ lib ++ "_spec"

theorem foreign_of_getLast? (fixed : name ∉ [argvName, optionsName, argsName, builderName,
      handlerName, "sys", "asyncio", "importlib", "__all__", "*"])
    (last : name.toList.getLast? ≠ some 'c') : Foreign name := by
  refine ⟨fixed, fun lib same => last ?_⟩
  rw [same, String.toList_append, show "_spec".toList = "_spe".toList ++ ['c'] from rfl,
    ← List.append_assoc, List.getLast?_concat]

theorem foreign_refusalName : Foreign refusalName :=
  foreign_of_getLast? (by decide) (by decide)

theorem foreign_debugName : Foreign debugName :=
  foreign_of_getLast? (by decide) (by decide)

/-- Wherever the entry point stands in a module, the exception is raised inside of the handler. -/
theorem within_mismatch (entry : (wrapperScope signature options declared).toStmt ∈ module) :
    Within module [handlerScope signature, wrapperScope signature options declared] mismatch := by
  have handler : (handlerScope signature).toStmt ∈ wrapperBody signature options declared :=
    List.mem_cons_of_mem _ List.mem_cons_self
  have matched : Within module [handlerScope signature, wrapperScope signature options declared]
      (handlerMatch signature) := .body (.body (.top entry) handler) List.mem_cons_self
  exact .inner matched (List.mem_cons_of_mem _ List.mem_cons_self)

/-- From inside of the handler, a name passes the positionals, the description and the statements of
the module. -/
theorem resolve_eq_none_iff_of_foreign (foreign : Foreign name) :
    resolve published module [handlerScope signature, wrapperScope signature options declared]
        name = none ↔
      name ∉ signature.positionalNames ∧ name ∉ signature.description.assigned ∧
        ∀ stmt ∈ module, name ∉ stmt.bound published := by
  have fixed := foreign.fixed
  simp only [List.mem_cons, List.not_mem_nil, or_false, not_or] at fixed
  obtain ⟨argv, rest, args, builder, handler, -⟩ := fixed
  have positionals : name ∉ (handlerScope signature).locals published ↔
      name ∉ signature.positionalNames := by
    rw [← mem_functionLocals_handler_iff argv rest, locals_handlerScope, functionLocals_handler]
  rw [resolve_cons_eq_none_iff, resolve_cons_eq_none_iff, resolve_nil_eq_none_iff, positionals,
    locals_wrapperScope, List.mem_append, not_or]
  simp [args, builder, handler]

/-! ### Statements that are written around the function -/

@[simp] theorem globals_wrapperFunction :
    (wrapperFunction (wrapperBody signature options declared) options).globals = [] := by
  simp [wrapperFunction_eq, wrapperBody, builderOf, handler, functionOf, dispatch, mismatch,
    registration, Stmt.globals, globalsEach, globalsArms]

@[simp] theorem globals_invocation (functionName : String) (args : Option (List String))
    (isAsync : Bool) : (invocation functionName args isAsync).globals = [] := by
  simp [invocation, Stmt.globals]

@[simp] theorem globals_exportsList (functionName : String) :
    (exportsList functionName).globals = [] := rfl

/-- Where the function is imported, no statement of the module hands a name to it. -/
theorem globals_of_mem_layout
    (referenced : referenceImports site.directory site.output signature = .ok imports)
    {stmt : Stmt} (member : stmt ∈ layout signature options context declared imports) :
    stmt.globals = [] := by
  rw [layout, opening] at member
  simp only [List.mem_append, List.mem_map, List.mem_cons, List.not_mem_nil, or_false] at member
  rcases member with ((⟨name, -, rfl⟩ | imported) | rfl) | rfl | behind
  · rfl
  · obtain ⟨-, -, source, level, -, -, rfl⟩ := (mem_referenceImports_iff referenced).mp imported
    rfl
  · rfl
  · exact globals_wrapperFunction
  · rw [eq_invocation_of_mem_closing behind, globals_invocation]

/-- Where the function is imported, the library, the entry point and the references decide whether
the module binds a name. -/
theorem unbound_layout_iff (foreign : Foreign name) (names : options.NamesBindable)
    (referenced : referenceImports site.directory site.output signature = .ok imports) :
    (∀ stmt ∈ layout signature options context declared imports, name ∉ stmt.bound published) ↔
      options.lib ≠ name ∧ options.functionName ≠ name ∧
        (∀ reference ∈ signature.references, name ∉ importedExports reference.2) ∧
          Unpublished published site signature name := by
  have fixed := foreign.fixed
  simp only [List.mem_cons, List.not_mem_nil, or_false, not_or] at fixed
  obtain ⟨-, -, -, -, -, sys, asyncio, -, exports, single⟩ := fixed
  rw [layout_eq, List.forall_mem_append, List.forall_mem_append, unbound_ownImports_iff names,
    mem_ownModules_iff, unbound_imports_iff referenced single, unbound_behindImports_iff]
  simp only [sys, asyncio, exports, false_or, and_false, ne_eq, not_false_iff, true_and,
    eq_comm (a := name)]
  constructor
  · rintro ⟨⟨library, unexported, unpublished⟩, wrapper⟩
    exact ⟨library, wrapper, unexported, unpublished⟩
  · rintro ⟨library, wrapper, unexported, unpublished⟩
    exact ⟨⟨library, unexported, unpublished⟩, wrapper⟩

/-! ### Statements that load the library -/

/-- The names that are bound to load the library from its file. -/
theorem bound_loading :
    (loading options file).flatMap (Stmt.bound published) =
      "sys" :: (if options.asyncFunction then ["asyncio"] else []) ++
        ["importlib", "_" ++ options.lib ++ "_spec", options.lib] := by
  -- The imports that open the module are one more if the function is asynchronous.
  have own (name : String) (identifier : isIdentifier name) :
      (ownImport name).bound published = [name] := bound_ownImport identifier
  have opens : (if options.asyncFunction then [ownImport "asyncio"] else []).flatMap
      (Stmt.bound published) = if options.asyncFunction then ["asyncio"] else [] := by
    split
    · rw [List.flatMap_singleton, own "asyncio" (by decide)]
    · rfl
  rw [loading, List.cons_append, List.flatMap_cons, List.flatMap_append, opens,
    own "sys" (by decide)]
  simp [loadFromFile, importModule, assignName, importCall, attributes, textExpr, Stmt.bound,
    Expr.boundAsTarget, Expr.targets, Expr.assigned, assignedKeywords, Alias.ofModule]

theorem globals_of_mem_loading {stmt : Stmt} (member : stmt ∈ loading options file) :
    stmt.globals = [] := by
  simp only [loading, loadFromFile, List.mem_append, List.mem_cons, List.not_mem_nil, or_false]
    at member
  rcases member with (rfl | awaited) | rfl | rfl | rfl | rfl | rfl
  · rfl
  · split at awaited
    · rw [List.mem_singleton.mp awaited]
      rfl
    · cases awaited
  all_goals rfl

/-- To load the library, only the library itself can be bound under a name from outside. -/
theorem unbound_loading_iff (foreign : Foreign name) :
    (∀ stmt ∈ loading options file, name ∉ stmt.bound published) ↔ options.lib ≠ name := by
  have fixed := foreign.fixed
  simp only [List.mem_cons, List.not_mem_nil, or_false, not_or] at fixed
  obtain ⟨-, -, -, -, -, sys, asyncio, importlib, -⟩ := fixed
  have asynchronous : name ∉ if options.asyncFunction then ["asyncio"] else [] := by
    split <;> simp [asyncio]
  have together : (∀ stmt ∈ loading options file, name ∉ stmt.bound published) ↔
      name ∉ (loading options file).flatMap (Stmt.bound published) := by
    simp only [List.mem_flatMap, not_exists, not_and]
  rw [together, bound_loading]
  simp [sys, importlib, asynchronous, foreign.specification options.lib, eq_comm (a := name)]

/-- The statements of a module that inlines another are those of the other one and those around
them, whatever is asked of them. -/
theorem forall_mem_inlinedLayout_iff {entry : List Stmt} {free : Stmt → Prop} :
    (∀ stmt ∈ inlinedLayout entry signature options context declared file, free stmt) ↔
      (∀ stmt ∈ entry, free stmt) ∧ (∀ stmt ∈ loading options file, free stmt) ∧
        free (exportsList options.functionName) ∧
          free (wrapperFunction (wrapperBody signature options declared) options) ∧
            free (invocation options.functionName context.args options.asyncFunction) := by
  -- To take some statements in front changes their order, and not which they are.
  have inlined :
      (∀ stmt ∈ entry, free stmt) ↔ (∀ stmt ∈ entry.filter isFutureImport, free stmt) ∧
        ∀ stmt ∈ entry.filter (!isFutureImport ·), free stmt := by
    rw [← List.forall_mem_append]
    exact forall_congr' fun stmt =>
      imp_congr_left (List.filter_append_perm isFutureImport entry).mem_iff.symm
  rw [inlinedLayout, List.forall_mem_append, List.forall_mem_append, List.forall_mem_append,
    List.forall_mem_cons, List.forall_mem_cons, List.forall_mem_singleton, inlined]
  constructor
  · rintro ⟨⟨⟨language, library⟩, other⟩, own⟩
    exact ⟨⟨language, other⟩, library, own⟩
  · rintro ⟨⟨language, other⟩, library, own⟩
    exact ⟨⟨⟨language, library⟩, other⟩, own⟩

/-- Where the module of the function is inlined, the library, the entry point and that module decide
whether the module binds a name. -/
theorem unbound_inlinedLayout_iff {entry : List Stmt} (foreign : Foreign name) :
    (∀ stmt ∈ inlinedLayout entry signature options context declared file,
        name ∉ stmt.bound published) ↔
      options.lib ≠ name ∧ options.functionName ≠ name ∧
        ∀ stmt ∈ entry, name ∉ stmt.bound published := by
  have exports : name ≠ "__all__" := fun same => foreign.fixed (by simp [same])
  rw [forall_mem_inlinedLayout_iff, unbound_loading_iff foreign, bound_exportsList,
    bound_wrapperFunction, bound_invocation]
  simp only [List.mem_singleton, exports, List.not_mem_nil, not_false_iff, and_true, true_and,
    ne_eq, eq_comm (a := name)]
  exact and_comm.trans and_assoc

/-- Where the module of the function is inlined, only that module can hand a name to the module. -/
theorem globals_inlinedLayout_iff {entry : List Stmt} :
    (∀ stmt ∈ inlinedLayout entry signature options context declared file,
        name ∉ stmt.globals) ↔ ∀ stmt ∈ entry, name ∉ stmt.globals := by
  rw [forall_mem_inlinedLayout_iff, globals_exportsList, globals_wrapperFunction,
    globals_invocation]
  have library : ∀ stmt ∈ loading options file, name ∉ stmt.globals := fun stmt member =>
    globals_of_mem_loading member ▸ List.not_mem_nil
  simp only [List.not_mem_nil, not_false_iff, and_true]
  exact and_iff_left library

/-! ### The handler of a generated module -/

/-- The entry point stands in every module that is rendered. -/
theorem exists_wrapper_of_render (rendered : render site signature options context = .ok module) :
    signature.Accepted ∧ ∃ declared, declarations signature = List.map Link.toExpr declared ∧
      (wrapperScope signature options declared).toStmt ∈ module := by
  cases inlined : context.inlines with
  | false =>
    obtain ⟨accepted, -, declared, imports, declares, -, rfl⟩ :=
      (render_eq_ok_iff inlined).mp rendered
    exact ⟨accepted, declared, declares, List.mem_append_right _ List.mem_cons_self⟩
  | true =>
    obtain ⟨accepted, -, declared, file, declares, -, rfl⟩ :=
      (render_inlined_eq_ok_iff inlined).mp rendered
    exact ⟨accepted, declared, declares,
      List.mem_append_right _ (List.mem_cons_of_mem _ List.mem_cons_self)⟩

/-- The library, the entry point and what makes the function available decide whether a module that
is rendered binds a name. -/
theorem unbound_render_iff (names : options.NamesBindable) (foreign : Foreign name)
    (rendered : render site signature options context = .ok module) :
    (∀ stmt ∈ module, name ∉ stmt.bound published) ↔
      options.lib ≠ name ∧ options.functionName ≠ name ∧
        SourceApart published site signature context name := by
  cases inlined : context.inlines with
  | false =>
    obtain ⟨-, -, declared, imports, -, referenced, rfl⟩ := (render_eq_ok_iff inlined).mp rendered
    rw [unbound_layout_iff foreign names referenced, SourceApart, if_neg (by simp [inlined])]
  | true =>
    obtain ⟨-, -, declared, file, -, -, rfl⟩ := (render_inlined_eq_ok_iff inlined).mp rendered
    rw [unbound_inlinedLayout_iff foreign, SourceApart, if_pos inlined]

/-- Only a module that is inlined hands names to the module that is rendered. -/
theorem globals_render_iff (rendered : render site signature options context = .ok module) :
    (∀ stmt ∈ module, name ∉ stmt.globals) ↔
      (context.inlines → ∀ stmt ∈ site.entry, name ∉ stmt.globals) := by
  cases inlined : context.inlines with
  | false =>
    obtain ⟨-, -, declared, imports, -, referenced, rfl⟩ := (render_eq_ok_iff inlined).mp rendered
    simp only [Bool.false_eq_true, false_implies, iff_true]
    exact fun stmt member => globals_of_mem_layout referenced member ▸ List.not_mem_nil
  | true =>
    obtain ⟨-, -, declared, file, -, -, rfl⟩ := (render_inlined_eq_ok_iff inlined).mp rendered
    rw [globals_inlinedLayout_iff]
    simp only [forall_const]

/-- From inside of the handler, a name leads out of a module that is rendered exactly if nothing
that the user chooses stands in front of it. -/
theorem resolve_eq_none_iff_nameApart (names : options.NamesBindable) (foreign : Foreign name)
    (rendered : render site signature options context = .ok module) :
    resolve published module [handlerScope signature, wrapperScope signature options declared]
        name = none ↔
      NameApart published site signature options context name := by
  rw [resolve_eq_none_iff_of_foreign foreign, unbound_render_iff names foreign rendered]
  constructor
  · rintro ⟨positionals, description, library, wrapper, source⟩
    exact ⟨positionals, description, library, wrapper, source⟩
  · rintro ⟨positionals, description, library, wrapper, source⟩
    exact ⟨positionals, description, library, wrapper, source⟩

/-- In every module that is rendered with options that are merged from overrides, the handler
refuses what is no mapping and what lacks one of its keys by the exception that is built in, without
a call of the function, exactly if no other binding stands in front of the exception, nothing binds
the constant, and the value can be shown. -/
theorem handler_refuses_iff (published : Published) (shown : Datum V → Option String)
    {overrides : Overrides} (merged : Options.ofOverrides overrides = .ok options)
    (rendered : render site signature options context = .ok module)
    (incomplete : ¬argument.HasKeys signature.handlerKeys) :
    ∃ declared,
      declarations signature = List.map Link.toExpr declared ∧
      Within module [handlerScope signature, wrapperScope signature options declared] mismatch ∧
      (Refuses published module [handlerScope signature, wrapperScope signature options declared]
          signature (runFunction shown (handler signature) argument) ↔
        RefusalApart published site signature options context ∧ (shown argument).isSome) := by
  have names := Options.namesBindable_of_ofOverrides merged
  obtain ⟨accepted, declared, declares, entry⟩ := exists_wrapper_of_render rendered
  refine ⟨declared, declares, within_mismatch entry, ?_⟩
  rw [refuses_iff accepted shown incomplete, Unbound, ConstantUnbound,
    resolve_eq_none_iff_nameApart names foreign_refusalName rendered,
    resolve_eq_none_iff_nameApart names foreign_debugName rendered, globals_render_iff rendered]
  constructor
  · rintro ⟨function, -, -, text, ⟨exception, unhanded⟩, constant⟩
    exact ⟨⟨function, exception, unhanded, constant⟩, text⟩
  · rintro ⟨⟨function, exception, unhanded, constant⟩, text⟩
    exact ⟨function, exception.positionals, constant.positionals, text, ⟨exception, unhanded⟩,
      constant⟩

/-- Parsed arguments that lack a positional. -/
def targetless : Mapping Nat where
  items := [("_", 5), ("$0", 0), ("source", 1), ("force", 3)]
  nodup := by decide

theorem handler_refuses_targetless :
    Options.ofOverrides [("async_function", .truth true)] = .ok { asyncFunction := true } ∧
    ¬(Datum.mapping targetless).HasKeys copying.handlerKeys ∧
    ∃ module declared,
      render besideLibrary copying { asyncFunction := true } { inlines := true } = .ok module ∧
      Refuses (fun _ _ => []) module
        [handlerScope copying, wrapperScope copying { asyncFunction := true } declared] copying
        (runFunction (fun _ => some "parsed") (handler copying) (.mapping targetless)) := by
  have merged : Options.ofOverrides [("async_function", .truth true)] =
      .ok { asyncFunction := true } := by rfl
  have incomplete : ¬(Datum.mapping targetless).HasKeys copying.handlerKeys := by
    intro complete
    exact absurd (complete "target" (by decide)) (by decide)
  obtain ⟨module, rendered⟩ : ∃ module,
      render besideLibrary copying { asyncFunction := true } { inlines := true } = .ok module :=
    ⟨_, rfl⟩
  obtain ⟨declared, -, -, refuses⟩ :=
    handler_refuses_iff (fun _ _ => []) (fun _ => some "parsed") merged rendered incomplete
  have description : copying.description.assigned = [] := rfl
  have apart (name : String) (positionals : name ∉ copying.positionalNames)
      (library : "yargs" ≠ name) (wrapper : "cli" ≠ name)
      (source : ∀ stmt ∈ repetitive, name ∉ stmt.bound fun _ _ => []) :
      NameApart (fun _ _ => []) besideLibrary copying { asyncFunction := true }
        { inlines := true } name :=
    ⟨positionals, description ▸ List.not_mem_nil, library, wrapper, source⟩
  refine ⟨merged, incomplete, module, declared, rendered,
    refuses.mpr ⟨⟨by decide, ?_, ?_, ?_⟩, rfl⟩⟩
  · exact apart refusalName (by decide) (by decide) (by decide) (by decide)
  · decide
  · exact apart debugName (by decide) (by decide) (by decide) (by decide)

/-- A function with a positional that has the name of the exception. -/
def exceptional : Signature :=
  { exporting "greet" with
    positionals := [⟨"TypeError", defaultCall "positional" "TypeError", true⟩] }

/-- The positional is accepted, the module is rendered, and what is no mapping leads to another
exception than the one that the handler should raise. -/
theorem exceptional_reads_unbound :
    checkSignature exceptional = .ok () ∧ Options.ofOverrides [] = .ok {} ∧
      (∃ module, render besideFile exceptional {} {} = .ok module) ∧
      (runFunction (fun _ => some "0") (handler exceptional) (.given 0)).calls = [] ∧
      (runFunction (fun _ => some "0") (handler exceptional) (.given 0)).halt =
        some (.unbound "TypeError") :=
  ⟨rfl, rfl, ⟨_, rfl⟩, rfl, rfl⟩

end EntryPoint
