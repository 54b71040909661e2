/-
# The callee of the handler

The handler calls the function by its name, from inside of the entry point. The
name passes the handler and the callbacks, but the checks of a render leave open
three bindings that can stand between the call and the import of the function:
the parameter of the entry point, the list of exports, and an assignment inside
of the description.

## Main results

* `within_layout_dispatch_iff` - the call stands in the handler and nowhere else.
* `dispatch_reaches_import_iff` - when the call reaches the import of the function.
-/

import EntryPoint.Proofs.Module.Bindings

namespace EntryPoint

open Syntax Text

variable {published : Published} {site : Site} {signature : Signature} {options : Options}
  {context : Context} {declared : List Link} {imports module : List Stmt} {name : String}

/-! ### The name of the function -/

/-- The call of the function is no statement at the top of the module. -/
theorem dispatch_notMem_layout (apart : UserNamesApart signature options)
    (referenced : referenceImports site.directory site.output signature = .ok imports) :
    dispatch signature ∉ layout signature options context declared imports := by
  intro member
  rw [layout, opening] at member
  simp only [List.mem_append, List.mem_map, List.mem_cons, List.not_mem_nil, or_false] at member
  rcases member with ((⟨_, -, own⟩ | member) | exports) | wrapper | behind
  -- Everything in front is a statement of another form, or imports.
  · cases own
  · obtain ⟨_, _, _, _, _, _, same⟩ := (mem_referenceImports_iff referenced).mp member
    cases same
  · cases exports
  · cases wrapper
  · -- Both are calls; what is called tells them apart.
    have same := Stmt.expression.inj (eq_invocation_of_mem_closing behind)
    cases async : options.asyncFunction with
    | true =>
      rw [async] at same
      cases same
    | false =>
      rw [async] at same
      have callee := Expr.name.inj (Expr.call.inj same).1
      exact apart.name (by simp [moduleReserved, callee])

/-- The call of the function is no statement of the entry point itself. -/
theorem dispatch_notMem_wrapperBody :
    dispatch signature ∉ wrapperBody signature options declared := by
  intro member
  simp only [wrapperBody, List.mem_cons, List.not_mem_nil, or_false] at member
  rcases member with builder | handler | registration
  · cases builder
  · cases handler
  · have same := Stmt.expression.inj registration
    rw [chainLinks, List.foldl_append] at same
    cases same

/-- The call of the function stands in the handler and nowhere else. -/
theorem within_layout_dispatch_iff (apart : UserNamesApart signature options)
    (referenced : referenceImports site.directory site.output signature = .ok imports)
    {around : List Enclosing} :
    Within (layout signature options context declared imports) around (dispatch signature) ↔
      around = [handlerScope signature, wrapperScope signature options declared] := by
  have builder : dispatch signature ∉ (builderScope declared).body := by
    intro member
    cases List.mem_singleton.mp member
  rw [within_layout_iff referenced]
  simp [dispatch_notMem_layout apart referenced, dispatch_notMem_wrapperBody, builder]

/-- Some import of references binds what a file exports first by default or by name. -/
theorem exists_import_of_exported
    (referenced : referenceImports site.directory site.output signature = .ok imports)
    (single : name ≠ "*")
    (exported : ∃ reference ∈ signature.references,
      reference.2.default.head? = some name ∨ name ∈ reference.2.named) :
    ∃ stmt ∈ imports, name ∈ stmt.bound published := by
  obtain ⟨reference, member, exported⟩ := exported
  rw [← mem_importedExports_iff] at exported
  obtain ⟨source, level, made⟩ :=
    exists_mem_referenceImports referenced member (List.ne_nil_of_mem exported)
  exact ⟨_, made, mem_bound_importOf_iff.mpr (.inl ⟨exported, single⟩)⟩

/-- Where the function is imported, the call of it reaches that import exactly if neither the
parameter of the entry point nor the list of exports has its name, and the description does not
assign to it. -/
theorem dispatch_reaches_import_iff (published : Published)
    (rendered : render site signature options context = .ok module)
    (imported : context.inlines = false)
    (exported : ∃ reference ∈ signature.references,
      reference.2.default.head? = some signature.name ∨ signature.name ∈ reference.2.named) :
    ∃ around imports,
      (∀ place, Within module place (dispatch signature) ↔ place = around) ∧
      around.map (·.head.name) = [handlerName, options.functionName] ∧
      referenceImports site.directory site.output signature = .ok imports ∧
      ((∃ stmt ∈ imports, signature.name ∈ stmt.bound published ∧
          resolve published module around signature.name = some (.top stmt)) ↔
        signature.name ≠ argsName ∧ signature.name ≠ "__all__" ∧
          signature.name ∉ signature.description.assigned) := by
  obtain ⟨accepted, apart, declared, imports, -, referenced, rfl⟩ :=
    (render_eq_ok_iff imported).mp rendered
  refine ⟨[handlerScope signature, wrapperScope signature options declared], imports,
    fun place => within_layout_dispatch_iff apart referenced, rfl, referenced, ?_⟩
  -- The name of the function differs from all names that the module itself binds around the call.
  have outside := accepted.name_notMem_locals_handlerScope published
  have callbacks : signature.name ≠ builderName ∧ signature.name ≠ handlerName :=
    ⟨fun same => accepted.name_unshadowed (by simp [shadowingNames, same]),
      fun same => accepted.name_unshadowed (by simp [shadowingNames, same])⟩
  have wrapper : signature.name ≠ options.functionName := fun same =>
    apart.name (by simp [moduleReserved, same])
  have single : signature.name ≠ "*" := ne_of_isBindable accepted.name_bindable (by decide)
  have fresh (stmt : Stmt) (member : stmt ∈ imports) :
      stmt ∉ behindImports signature options context declared :=
    notMem_behindImports (isImport_of_mem_referenceImports referenced member)
  -- Out of the handler the name always leads; the entry point and the end of the module decide.
  simp only [resolve_cons_eq_top_iff, resolve_nil_eq_top_iff, outside, not_false_iff, true_and,
    locals_wrapperScope, layout_eq]
  constructor
  -- The last binding of the name stands among the imports exactly when nothing behind them binds
  -- it.
  · rintro ⟨stmt, member, -, free, last⟩
    obtain ⟨-, unbound⟩ := (lastBinding?_append_eq_some_iff (fresh stmt member)).mp last
    obtain ⟨exports, -⟩ := unbound_behindImports_iff.mp unbound
    rw [List.mem_append, not_or] at free
    exact ⟨fun same => free.1 (by simp [same]), exports, free.2⟩
  · rintro ⟨parameter, exports, unassigned⟩
    obtain ⟨stmt, member, binds, last⟩ :=
      lastBinding?_append_of_bound (exists_import_of_exported referenced single exported)
    refine ⟨stmt, member, binds, ?_, (lastBinding?_append_eq_some_iff (fresh stmt member)).mpr
      ⟨last, unbound_behindImports_iff.mpr ⟨exports, wrapper⟩⟩⟩
    simp [parameter, callbacks, unassigned]

theorem dispatch_reaches_greet :
    ∃ module around,
      render besideFile (exporting "greet") {} {} = .ok module ∧
      (∀ place, Within module place (dispatch (exporting "greet")) ↔ place = around) ∧
      ∃ stmt, "greet" ∈ stmt.bound (fun _ _ => []) ∧
        resolve (fun _ _ => []) module around "greet" = some (.top stmt) := by
  obtain ⟨module, rendered⟩ :
      ∃ module, render besideFile (exporting "greet") {} {} = .ok module := ⟨_, rfl⟩
  obtain ⟨around, imports, within, -, -, reaches⟩ :=
    dispatch_reaches_import_iff (fun _ _ => []) rendered rfl
      ⟨_, List.mem_singleton_self _, .inr (List.mem_singleton_self _)⟩
  obtain ⟨stmt, -, bound, found⟩ :=
    reaches.mpr ⟨by decide, by decide, by simp [exporting, textExpr, Expr.assigned]⟩
  exact ⟨module, around, rendered, within, stmt, bound, found⟩

/-- A function with the name of the entry point's parameter is accepted, and the call reaches that
parameter instead of the import. -/
theorem dispatch_reaches_parameter :
    (∃ reference ∈ (exporting "args").references, "args" ∈ reference.2.named) ∧
    ∃ module around,
      render besideFile (exporting "args") {} {} = .ok module ∧
      Within module around (dispatch (exporting "args")) ∧
      resolve (fun _ _ => []) module around "args" = some (.parameter (wrapperHead {})) := by
  obtain ⟨module, rendered⟩ :
      ∃ module, render besideFile (exporting "args") {} {} = .ok module := ⟨_, rfl⟩
  obtain ⟨-, apart, declared, imports, -, referenced, rfl⟩ := (render_eq_ok_iff rfl).mp rendered
  exact ⟨⟨_, List.mem_singleton_self _, List.mem_singleton_self _⟩, _, _, rendered,
    (within_layout_dispatch_iff apart referenced).mpr rfl, rfl⟩

end EntryPoint
