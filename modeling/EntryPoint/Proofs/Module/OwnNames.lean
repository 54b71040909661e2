/-
# The names that generated code reads

An entry point reads names that the user does not choose: the library, the
callbacks, its own parameter, and the modules and types of its head. Each should
lead to what the module binds for it. The library and the entry point may be named
freely, and nothing compares these two names with each other or with the fixed
ones, so the conditions are stated here.

## Main definitions

* `OwnNamesResolve` - the names lead to what the module binds for them.
* `OwnNamesApart` - no other binding stands in between.

## Main results

* `ownNamesResolve_iff` - the names resolve exactly if no other binding stands in between.
-/

import EntryPoint.Proofs.Module.Bindings
import EntryPoint.Proofs.Options.Names

namespace EntryPoint

open Syntax Text

variable {published : Published} {site : Site} {signature : Signature} {options : Options}
  {context : Context} {declared : List Link} {imports module : List Stmt} {name : String}

/-- The types in the head of an entry point. -/
def typeNames : List String := ["list", "str"]

/-- The names that the entry point and its call read by themselves lead to what the module binds for
them, and those of types to nothing in the module. The head is evaluated before the entry point is
bound, and the call after that. -/
structure OwnNamesResolve (published : Published) (signature : Signature) (options : Options)
    (context : Context) (declared : List Link) (imports : List Stmt) : Prop where
  library :
    resolve published (layout signature options context declared imports)
      [wrapperScope signature options declared] options.lib = some (.top (ownImport options.lib))
  builder :
    resolve published (layout signature options context declared imports)
      [wrapperScope signature options declared] builderName =
        some (.inside (wrapperHead options) (builderOf declared))
  handler :
    resolve published (layout signature options context declared imports)
      [wrapperScope signature options declared] handlerName =
        some (.inside (wrapperHead options) (handler signature))
  args :
    resolve published (layout signature options context declared imports)
      [wrapperScope signature options declared] argsName = some (.parameter (wrapperHead options))
  sys :
    resolve published (opening options context imports) [] "sys" = some (.top (ownImport "sys"))
  types : ∀ name ∈ typeNames,
    resolve published (opening options context imports) [] name = none
  callee : invokes options context →
    resolve published (opening options context imports ++
      [wrapperFunction (wrapperBody signature options declared) options]) [] options.functionName =
        some (.top (wrapperFunction (wrapperBody signature options declared) options))
  asyncio : invokes options context → options.asyncFunction →
    resolve published (opening options context imports ++
      [wrapperFunction (wrapperBody signature options declared) options]) [] "asyncio" =
        some (.top (ownImport "asyncio"))

/-- No file that is imported as a whole publishes a name. -/
def Unpublished (published : Published) (site : Site) (signature : Signature) (name : String) :
    Prop :=
  ∀ reference ∈ signature.references, "*" ∈ importedExports reference.2 → ∀ source level,
    relativeModule site.directory site.output reference.1 = .ok (source, level) →
      name ∉ published source level

/-- No other binding stands between the names that the generated code reads and what it binds for
them. -/
structure OwnNamesApart (published : Published) (site : Site) (signature : Signature)
    (options : Options) (context : Context) : Prop where
  library : options.lib ∉ [argsName, builderName, handlerName, "__all__", options.functionName]
  description : ∀ name ∈ [options.lib, builderName, handlerName, argsName],
    name ∉ signature.description.assigned
  star : ∀ name ∈ ownModules options context ++ typeNames,
    Unpublished published site signature name
  types : ∀ name ∈ typeNames, name ≠ options.lib ∧
    ∀ reference ∈ signature.references, name ∉ importedExports reference.2
  asyncio : invokes options context → options.asyncFunction → options.functionName ≠ "asyncio"

theorem mem_ownModules_iff :
    name ∈ ownModules options context ↔
      name = "sys" ∨ (invokes options context ∧ options.asyncFunction) ∧ name = "asyncio" ∨
        name = options.lib := by
  rw [ownModules]
  split
  · rename_i both
    rw [Bool.and_eq_true] at both
    simp [both]
  · rename_i neither
    rw [Bool.and_eq_true, and_comm] at neither
    simp [neither]

theorem isIdentifier_of_mem_ownModules (names : options.NamesBindable)
    (member : name ∈ ownModules options context) : isIdentifier name := by
  rcases mem_ownModules_iff.mp member with rfl | ⟨-, rfl⟩ | rfl
  · decide
  · decide
  · exact isIdentifier_of_isBindable names.lib

theorem mem_moduleReserved_of_mem_ownModules (member : name ∈ ownModules options context) :
    name ∈ moduleReserved options := by
  rcases mem_ownModules_iff.mp member with rfl | ⟨-, rfl⟩ | rfl <;>
    simp [moduleReserved, runtimeModules]

/-- Among its own imports, each module is bound by the import of it. -/
theorem lastBinding?_ownImports (names : options.NamesBindable)
    (member : name ∈ ownModules options context) :
    lastBinding? published name ((ownModules options context).map ownImport) =
      some (ownImport name) := by
  have binds {own : String} (own_mem : own ∈ ownModules options context) :
      (ownImport own).bound published = [own] :=
    bound_ownImport (isIdentifier_of_mem_ownModules names own_mem)
  -- Own imports bind distinct names, so the last one that binds the name is its own.
  cases last : lastBinding? published name ((ownModules options context).map ownImport) with
  | none =>
    have unbound := lastBinding?_eq_none_iff.mp last _ (List.mem_map_of_mem member)
    simp [binds member] at unbound
  | some stmt =>
    obtain ⟨among, bound⟩ := mem_of_lastBinding?_eq_some last
    obtain ⟨own, own_mem, rfl⟩ := List.mem_map.mp among
    rw [binds own_mem, List.mem_singleton] at bound
    rw [bound]

/-- The import of a module stays in force exactly if neither the imports of references nor what
follows them binds its name. -/
theorem lastBinding?_ownImport_iff (names : options.NamesBindable)
    (referenced : referenceImports site.directory site.output signature = .ok imports)
    (member : name ∈ ownModules options context) {further : List Stmt}
    (fresh : ownImport name ∉ further) :
    lastBinding? published name
        ((ownModules options context).map ownImport ++ imports ++ further) =
          some (ownImport name) ↔
      (∀ stmt ∈ imports, name ∉ stmt.bound published) ∧
        ∀ stmt ∈ further, name ∉ stmt.bound published := by
  have apart : ownImport name ∉ imports := by
    intro among
    obtain ⟨_, _, _, _, _, _, same⟩ := (mem_referenceImports_iff referenced).mp among
    cases same
  rw [lastBinding?_append_eq_some_iff fresh, lastBinding?_append_eq_some_iff apart,
    lastBinding?_ownImports names member]
  simp

/-- The imports of references bind a name exactly if a file exports it, or is imported as a whole
and publishes it. -/
theorem unbound_imports_iff
    (referenced : referenceImports site.directory site.output signature = .ok imports)
    (single : name ≠ "*") :
    (∀ stmt ∈ imports, name ∉ stmt.bound published) ↔
      (∀ reference ∈ signature.references, name ∉ importedExports reference.2) ∧
        Unpublished published site signature name := by
  constructor
  · intro unbound
    constructor
    · intro reference member among
      obtain ⟨source, level, made⟩ :=
        exists_mem_referenceImports referenced member (List.ne_nil_of_mem among)
      exact unbound _ made (mem_bound_importOf_iff.mpr (.inl ⟨among, single⟩))
    · intro reference member star source level found bound
      have made := (mem_referenceImports_iff referenced).mpr
        ⟨reference, member, source, level, List.ne_nil_of_mem star, found, rfl⟩
      exact unbound _ made (mem_bound_importOf_iff.mpr (.inr ⟨star, bound⟩))
  · rintro ⟨unexported, unpublished⟩ stmt made bound
    obtain ⟨reference, member, source, level, -, found, rfl⟩ :=
      (mem_referenceImports_iff referenced).mp made
    rcases mem_bound_importOf_iff.mp bound with ⟨among, -⟩ | ⟨star, bound⟩
    · exact unexported reference member among
    · exact unpublished reference member star source level found bound

/-- The imports of references bind a module of the generated code exactly if a file that is imported
as a whole publishes it. -/
theorem unbound_imports_iff_of_mem_ownModules (names : options.NamesBindable)
    (apart : UserNamesApart signature options)
    (referenced : referenceImports site.directory site.output signature = .ok imports)
    (member : name ∈ ownModules options context) :
    (∀ stmt ∈ imports, name ∉ stmt.bound published) ↔
      Unpublished published site signature name := by
  -- A star is no identifier, so no own name is one.
  have single : name ≠ "*" := by
    rintro rfl
    exact absurd (isIdentifier_of_mem_ownModules names member) (by decide)
  rw [unbound_imports_iff referenced single, and_iff_right_iff_imp]
  intro _ reference reference_mem among
  refine apart.exports reference reference_mem name ?_ (mem_moduleReserved_of_mem_ownModules member)
  rw [List.mem_append]
  exact (mem_importedExports_iff.mp among).imp_left List.mem_of_head?

/-- The library is reached exactly if neither the entry point nor a later statement of the module
binds its name. -/
theorem resolve_library_iff (names : options.NamesBindable)
    (referenced : referenceImports site.directory site.output signature = .ok imports) :
    resolve published (layout signature options context declared imports)
        [wrapperScope signature options declared] options.lib =
          some (.top (ownImport options.lib)) ↔
      options.lib ∉ [argsName, builderName, handlerName, "__all__", options.functionName] ∧
        options.lib ∉ signature.description.assigned ∧
        ∀ stmt ∈ imports, options.lib ∉ stmt.bound published := by
  have member : options.lib ∈ ownModules options context := by simp [ownModules]
  have fresh : ownImport options.lib ∉ behindImports signature options context declared :=
    notMem_behindImports rfl
  rw [resolve_cons_eq_top_iff, resolve_nil_eq_top_iff, locals_wrapperScope, layout_eq,
    lastBinding?_ownImport_iff names referenced member fresh, unbound_behindImports_iff]
  simp only [List.mem_append, List.mem_cons, List.not_mem_nil, or_false]
  grind

/-- A callback is reached exactly if the description does not assign to its name. -/
theorem resolve_builder_iff {executed : List Stmt} :
    resolve published executed [wrapperScope signature options declared] builderName =
        some (.inside (wrapperHead options) (builderOf declared)) ↔
      builderName ∉ signature.description.assigned := by
  have bound : builderName ∈ (builderOf declared).bound published := by simp
  have fresh : builderOf declared ∉ [handler signature, registration signature options] := by
    simp [builderOf, handler, functionOf, registration, builderName, handlerName]
  have last := lastBinding?_eq_self_iff [] bound fresh
  refine (resolve_singleton_eq_inside_iff.trans last).trans ?_
  simp [builderName, handlerName]

theorem resolve_handler_iff {executed : List Stmt} :
    resolve published executed [wrapperScope signature options declared] handlerName =
        some (.inside (wrapperHead options) (handler signature)) ↔
      handlerName ∉ signature.description.assigned := by
  have bound : handlerName ∈ (handler signature).bound published := by simp
  have fresh : handler signature ∉ [registration signature options] := by
    simp [handler, functionOf, registration]
  have last := lastBinding?_eq_self_iff [builderOf declared] bound fresh
  refine (resolve_singleton_eq_inside_iff.trans last).trans ?_
  simp

theorem resolve_args_iff {executed : List Stmt} :
    resolve published executed [wrapperScope signature options declared] argsName =
        some (.parameter (wrapperHead options)) ↔
      argsName ∉ signature.description.assigned := by
  have parameter : argsName ∈ (wrapperScope signature options declared).head.parameters.names := by
    simp [wrapperScope, wrapperHead, Parameters.names]
  refine (resolve_singleton_eq_parameter_iff parameter).trans ?_
  rw [lastBinding?_eq_none_iff]
  simp [wrapperScope, wrapperBody, argsName, builderName, handlerName]

/-- At the definition of the entry point, only imports of references can stand in front of `sys`. -/
theorem resolve_sys_iff (names : options.NamesBindable)
    (referenced : referenceImports site.directory site.output signature = .ok imports) :
    resolve published (opening options context imports) [] "sys" =
        some (.top (ownImport "sys")) ↔
      ∀ stmt ∈ imports, "sys" ∉ stmt.bound published := by
  have member : "sys" ∈ ownModules options context := by simp [ownModules]
  have fresh : ownImport "sys" ∉ [exportsList options.functionName] := by
    simp [ownImport, exportsList, assignName]
  rw [resolve_nil_eq_top_iff, opening, lastBinding?_ownImport_iff names referenced member fresh]
  simp

theorem unbound_ownImports_iff (names : options.NamesBindable) :
    (∀ stmt ∈ (ownModules options context).map ownImport, name ∉ stmt.bound published) ↔
      name ∉ ownModules options context := by
  rw [List.forall_mem_map]
  constructor
  · intro unbound member
    have unbound := unbound name member
    rw [bound_ownImport (isIdentifier_of_mem_ownModules names member)] at unbound
    exact unbound (List.mem_singleton_self name)
  · intro notMem own member bound
    rw [bound_ownImport (isIdentifier_of_mem_ownModules names member)] at bound
    exact notMem (List.mem_singleton.mp bound ▸ member)

theorem ne_of_mem_typeNames (member : name ∈ typeNames) :
    name ≠ "sys" ∧ name ≠ "asyncio" ∧ name ≠ "__all__" ∧ name ≠ "*" := by
  revert name
  decide

/-- At the definition of the entry point, only the library and imports of references can stand in
front of a type. -/
theorem resolve_type_iff (names : options.NamesBindable)
    (referenced : referenceImports site.directory site.output signature = .ok imports)
    (member : name ∈ typeNames) :
    resolve published (opening options context imports) [] name = none ↔
      name ≠ options.lib ∧
        (∀ reference ∈ signature.references, name ∉ importedExports reference.2) ∧
          Unpublished published site signature name := by
  obtain ⟨sys, asyncio, exports, single⟩ := ne_of_mem_typeNames member
  rw [resolve_nil_eq_none_iff, opening, List.forall_mem_append, List.forall_mem_append,
    unbound_ownImports_iff names, mem_ownModules_iff, unbound_imports_iff referenced single,
    List.forall_mem_singleton, bound_exportsList]
  simp [sys, asyncio, exports]

/-- At the call of the entry point, the entry point can stand in front of `asyncio` as well. -/
theorem resolve_asyncio_iff (names : options.NamesBindable)
    (referenced : referenceImports site.directory site.output signature = .ok imports)
    (member : "asyncio" ∈ ownModules options context) {body : List Stmt} :
    resolve published (opening options context imports ++ [wrapperFunction body options]) []
        "asyncio" = some (.top (ownImport "asyncio")) ↔
      (∀ stmt ∈ imports, "asyncio" ∉ stmt.bound published) ∧
        options.functionName ≠ "asyncio" := by
  have fresh : ownImport "asyncio" ∉
      [exportsList options.functionName] ++ [wrapperFunction body options] := by
    simp [ownImport, exportsList, assignName, wrapperFunction]
  rw [resolve_nil_eq_top_iff, opening, List.append_assoc,
    lastBinding?_ownImport_iff names referenced member fresh]
  simp [eq_comm]

/-- The entry point is the last to bind its name before it is called. -/
theorem resolve_callee {executed body : List Stmt} :
    resolve published (executed ++ [wrapperFunction body options]) [] options.functionName =
      some (.top (wrapperFunction body options)) :=
  resolve_nil_eq_top_iff.mpr (lastBinding?_concat_of_bound (by simp))

/-- The names resolve exactly if no other binding stands in between, for names that can be bound. -/
theorem ownNamesResolve_iff_ownNamesApart (names : options.NamesBindable)
    (apart : UserNamesApart signature options)
    (referenced : referenceImports site.directory site.output signature = .ok imports) :
    OwnNamesResolve published signature options context declared imports ↔
      OwnNamesApart published site signature options context := by
  have unbound {name : String} (member : name ∈ ownModules options context) :
      (∀ stmt ∈ imports, name ∉ stmt.bound published) ↔ _ :=
    unbound_imports_iff_of_mem_ownModules names apart referenced member
  have member (awaited : invokes options context ∧ options.asyncFunction) :
      "asyncio" ∈ ownModules options context := mem_ownModules_iff.mpr (.inr (.inl ⟨awaited, rfl⟩))
  constructor
  -- From the resolved names to the conditions, each of which comes from one of the names.
  · rintro ⟨library, builder, handler, args, sys, types, -, asyncio⟩
    rw [resolve_library_iff names referenced] at library
    rw [resolve_builder_iff] at builder
    rw [resolve_handler_iff] at handler
    rw [resolve_args_iff] at args
    rw [resolve_sys_iff names referenced] at sys
    have types (name : String) (typed : name ∈ typeNames) :=
      (resolve_type_iff names referenced typed).mp (types name typed)
    have asyncio (awaited : invokes options context ∧ options.asyncFunction) :=
      (resolve_asyncio_iff names referenced (member awaited)).mp (asyncio awaited.1 awaited.2)
    refine ⟨library.1, ?_, ?_, ?_, fun called isAsync => (asyncio ⟨called, isAsync⟩).2⟩
    · simp only [List.forall_mem_cons, List.not_mem_nil, false_imp_iff, implies_true, and_true]
      exact ⟨library.2.1, builder, handler, args⟩
    · intro name among
      rcases List.mem_append.mp among with own | typed
      · rw [← unbound own]
        rcases mem_ownModules_iff.mp own with rfl | ⟨awaited, rfl⟩ | rfl
        · exact sys
        · exact (asyncio awaited).1
        · exact library.2.2
      · exact (types name typed).2.2
    · exact fun name typed => ⟨(types name typed).1, (types name typed).2.1⟩
  -- And back: each name is the last to be bound as nothing behind it binds it.
  · rintro ⟨library, description, star, types, asyncio⟩
    have free (name : String) (own : name ∈ ownModules options context) :=
      (unbound own).mpr (star name (List.mem_append_left _ own))
    refine ⟨(resolve_library_iff names referenced).mpr ⟨library, ?_, ?_⟩,
      resolve_builder_iff.mpr ?_, resolve_handler_iff.mpr ?_, resolve_args_iff.mpr ?_,
      (resolve_sys_iff names referenced).mpr ?_, ?_, fun _ => resolve_callee, ?_⟩
    · exact description _ (by simp)
    · exact free _ (by simp [ownModules])
    · exact description _ (by simp)
    · exact description _ (by simp)
    · exact description _ (by simp)
    · exact free _ (by simp [ownModules])
    · intro name typed
      exact (resolve_type_iff names referenced typed).mpr ⟨(types name typed).1,
        (types name typed).2, star name (List.mem_append_right _ typed)⟩
    · intro called isAsync
      exact (resolve_asyncio_iff names referenced (member ⟨called, isAsync⟩)).mpr
        ⟨free _ (member ⟨called, isAsync⟩), asyncio called isAsync⟩

/-- Where the function is imported and the options are merged from overrides, the names that the
generated code reads resolve exactly if no other binding stands in between. -/
theorem ownNamesResolve_iff (published : Published) {overrides : Overrides}
    (merged : Options.ofOverrides overrides = .ok options)
    (rendered : render site signature options context = .ok module)
    (imported : context.inlines = false) :
    ∃ declared imports,
      referenceImports site.directory site.output signature = .ok imports ∧
      module = layout signature options context declared imports ∧
      (OwnNamesResolve published signature options context declared imports ↔
        OwnNamesApart published site signature options context) := by
  obtain ⟨-, apart, declared, imports, -, referenced, rfl⟩ :=
    (render_eq_ok_iff imported).mp rendered
  have names := Options.namesBindable_of_ofOverrides merged
  exact ⟨declared, imports, referenced, rfl,
    ownNamesResolve_iff_ownNamesApart names apart referenced⟩

/-- An asynchronous entry point that calls itself. -/
def awaited : Options where
  lib := "parser"
  asyncFunction := true
  runnable := true

theorem ownNamesResolve_awaited :
    Options.ofOverrides [("lib", .text "parser"), ("async_function", .truth true),
      ("runnable", .truth true)] = .ok awaited ∧
    ∃ declared imports,
      render besideFile (exporting "greet") awaited {} =
        .ok (layout (exporting "greet") awaited {} declared imports) ∧
      OwnNamesResolve (fun _ _ => []) (exporting "greet") awaited {} declared imports := by
  have merged : Options.ofOverrides [("lib", .text "parser"), ("async_function", .truth true),
      ("runnable", .truth true)] = .ok awaited := by rfl
  obtain ⟨module, rendered⟩ :
      ∃ module, render besideFile (exporting "greet") awaited {} = .ok module := ⟨_, rfl⟩
  obtain ⟨declared, imports, -, rfl, resolves⟩ :=
    ownNamesResolve_iff (fun _ _ => []) merged rendered rfl
  refine ⟨merged, declared, imports, rendered, resolves.mpr ⟨?_, ?_, ?_, ?_, ?_⟩⟩
  · decide
  · simp [exporting, textExpr, Expr.assigned]
  · exact fun _ _ _ _ _ _ _ _ => List.not_mem_nil
  · decide
  · decide

/-- A library with the name of the entry point is accepted, and the chain starts at the entry point
itself. -/
theorem library_reaches_wrapper :
    Options.ofOverrides [("lib", .text "cli")] = .ok { lib := "cli" } ∧
    ∃ declared imports,
      render besideFile (exporting "greet") { lib := "cli" } {} =
        .ok (layout (exporting "greet") { lib := "cli" } {} declared imports) ∧
      resolve (fun _ _ => [])
          (layout (exporting "greet") { lib := "cli" } {} declared imports)
          [wrapperScope (exporting "greet") { lib := "cli" } declared] "cli" =
        some (.top (wrapperFunction (wrapperBody (exporting "greet") { lib := "cli" } declared)
          { lib := "cli" })) := by
  obtain ⟨module, rendered⟩ :
      ∃ module, render besideFile (exporting "greet") { lib := "cli" } {} = .ok module := ⟨_, rfl⟩
  obtain ⟨-, -, declared, imports, -, -, rfl⟩ := (render_eq_ok_iff rfl).mp rendered
  refine ⟨by rfl, declared, imports, rendered, resolve_cons_eq_top_iff.mpr ⟨?_, ?_⟩⟩
  · rw [locals_wrapperScope]
    simp [exporting, textExpr, Expr.assigned, argsName, builderName, handlerName]
  · exact resolve_callee

end EntryPoint
