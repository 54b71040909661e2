/-
# Inlining the module of the function

A generated module that inlines the module of the function holds every statement of
it once. The imports that change the language of a module move to the front, where
they must stand; all else stays in order between the loader of the library and the
list of exports. The entry point is always called at the end, and neither the files
that the signature refers to nor the file that is written leave a trace.

## Main definitions

* `loading` - what stands between the statements that open the module and the others.
* `inlinedLayout` - the module around the statements of the function's module.

## Main results

* `render_inlined_eq_ok_iff` - when such a render succeeds, and with which module.
* `render_inlined_with_iff` - what has no influence on such a module.
* `inlined_entry_once` - where the statements of the function's module are.
-/

import EntryPoint.Proofs.Module.Layout

namespace EntryPoint

open Syntax Text

variable {site : Site} {signature : Signature} {options : Options} {context : Context}
  {declared : List Link} {module : List Stmt} {file : String}

/-! ### The layout -/

/-- What a module imports for itself and how it loads the library, if it inlines the function's
module. -/
def loading (options : Options) (file : String) : List Stmt :=
  ownImport "sys" :: (if options.asyncFunction then [ownImport "asyncio"] else []) ++
    loadFromFile options.lib options.lib file

/-- The module around the statements of the function's module. -/
def inlinedLayout (entry : List Stmt) (signature : Signature) (options : Options)
    (context : Context) (declared : List Link) (file : String) : List Stmt :=
  entry.filter isFutureImport ++ loading options file ++ entry.filter (!isFutureImport ·) ++
    [exportsList options.functionName, wrapperFunction (wrapperBody signature options declared)
      options, invocation options.functionName context.args options.asyncFunction]

theorem importModule_own (name : String) : importModule name "" = ownImport name := rfl

/-- Where the function's module is inlined, the file of the library decides whether a body can be
wrapped. -/
theorem wrap_inlined_eq_ok_iff (inlined : context.inlines = true) {body : List Stmt} :
    wrap site signature options context body = .ok module ↔ ∃ file,
      site.modules.find options.lib = .ok file ∧
        module = site.entry.filter isFutureImport ++ loading options file ++
          site.entry.filter (!isFutureImport ·) ++
          [exportsList options.functionName, wrapperFunction body options,
            invocation options.functionName context.args options.asyncFunction] := by
  have invoked : invokes options context = true := by rw [invokes, inlined, Bool.or_true]
  unfold wrap moduleSource libraryImports
  simp only [inlined, if_true, bind_eq_ok_iff, invoked, Bool.and_true, importModule_own]
  constructor
  -- Of the sources only the file of the library is looked for, and nothing else can fail.
  · rintro ⟨_, source, _, ⟨file, found, library⟩, same⟩
    obtain rfl := Except.ok.inj source
    obtain rfl := Except.ok.inj library
    obtain rfl := Except.ok.inj same
    exact ⟨file, found, by simp [loading, ModuleSource.opening, ModuleSource.remainder]⟩
  · rintro ⟨file, found, rfl⟩
    refine ⟨_, rfl, _, ⟨file, found, rfl⟩, ?_⟩
    simp [loading, ModuleSource.opening, ModuleSource.remainder]

/-- A render that inlines the function's module succeeds exactly when the signature is accepted, the
names of the user are apart, all declarations are links and the library stands in a file. -/
theorem render_inlined_eq_ok_iff (inlined : context.inlines = true) :
    render site signature options context = .ok module ↔
      signature.Accepted ∧ UserNamesApart signature options ∧ ∃ declared file,
        declarations signature = List.map Link.toExpr declared ∧
        site.modules.find options.lib = .ok file ∧
        module = inlinedLayout site.entry signature options context declared file := by
  unfold render
  rw [check_bind_eq_ok_iff, bind_eq_ok_iff, checkModuleNames_eq_ok_iff]
  simp only [renderBody_eq_ok_iff, wrap_inlined_eq_ok_iff inlined]
  constructor
  · rintro ⟨apart, _, ⟨accepted, declared, declares, rfl⟩, file, found, rfl⟩
    exact ⟨accepted, apart, declared, file, declares, found, rfl⟩
  · rintro ⟨accepted, apart, declared, file, declares, found, rfl⟩
    exact ⟨apart, _, ⟨accepted, declared, declares, rfl⟩, file, found, rfl⟩

/-! ### What does not matter -/

/-- Links are told by their expressions. -/
theorem declared_unique {declared' : List Link}
    (declares : declarations signature = declared.map Link.toExpr)
    (declares' : declarations signature = declared'.map Link.toExpr) : declared = declared' := by
  have toExpr_injective (link link' : Link) (same : link.toExpr = link'.toExpr) : link = link' := by
    cases link
    cases link'
    simpa [Link.toExpr] using same
  exact (List.map_inj_right toExpr_injective).mp (declares.symm.trans declares')

/-- What a module that inlines the function's module reads of the signature and the options: neither
the references nor whether the entry point is called. -/
theorem inlinedLayout_with (references : List (Path × Exports)) (runnable : Bool) :
    inlinedLayout site.entry { signature with references } { options with runnable } context
      declared file = inlinedLayout site.entry signature options context declared file := rfl

/-- A render that inlines the function's module and succeeds goes on to do so, with the same module,
wherever it is written to, whether it asks for a call or not, and for all references whose exports
are apart from the names of the module. -/
theorem render_inlined_with_iff (rendered : render site signature options context = .ok module)
    (inlined : context.inlines = true) {output : Path} {references : List (Path × Exports)}
    {runnable : Bool} {module' : List Stmt} :
    render { site with output } { signature with references } { options with runnable } context =
        .ok module' ↔
      (∀ reference ∈ references, ∀ name ∈ reference.2.default ++ reference.2.named,
        name ∉ moduleReserved options) ∧ module' = module := by
  obtain ⟨accepted, apart, declared, file, declares, found, rfl⟩ :=
    (render_inlined_eq_ok_iff inlined).mp rendered
  rw [render_inlined_eq_ok_iff inlined]
  constructor
  -- The declarations and the file do not depend on what is replaced.
  · rintro ⟨-, ⟨-, exports⟩, declared', file', declares', found', rfl⟩
    obtain rfl := declared_unique declares declares'
    obtain rfl := Except.ok.inj (found.symm.trans found')
    exact ⟨exports, inlinedLayout_with references runnable⟩
  · rintro ⟨exports, rfl⟩
    -- No check of a signature reads its references.
    have kept : Signature.Accepted { signature with references } :=
      ⟨accepted.name_bindable, accepted.name_unshadowed, accepted.positional_bindable,
        accepted.positional_unreserved, accepted.positional_required, accepted.positional_nodup,
        accepted.option_nodup, accepted.option_unpositioned⟩
    exact ⟨kept, ⟨apart.name, exports⟩, declared, file, declares, found,
      (inlinedLayout_with references runnable).symm⟩

/-! ### The statements of the function's module -/

/-- A module that inlines the function's module opens with all imports of that module that change
the language, in order. Besides them it holds the other statements, in order, between the loader of
the library and the list of exports, so that every statement is inlined once. It ends with the entry
point and the call of it, also where no call is asked for, and with the same statements whatever the
references and the file that is written, as long as the exports keep apart from its own names. -/
theorem inlined_entry_once (rendered : render site signature options context = .ok module)
    (inlined : context.inlines = true) :
    (∃ declared file,
      declarations signature = List.map Link.toExpr declared ∧
      site.modules.find options.lib = .ok file ∧
      (loadFromFile options.lib options.lib file).length = 5 ∧
      module = site.entry.filter isFutureImport ++
        ownImport "sys" :: (if options.asyncFunction then [ownImport "asyncio"] else []) ++
        loadFromFile options.lib options.lib file ++
        site.entry.filter (!isFutureImport ·) ++
        [exportsList options.functionName] ++
        [wrapperFunction (wrapperBody signature options declared) options,
          invocation options.functionName context.args options.asyncFunction]) ∧
    (site.entry.filter isFutureImport ++ site.entry.filter (!isFutureImport ·)).Perm site.entry ∧
    ∀ output references runnable module',
      render { site with output } { signature with references } { options with runnable } context =
          .ok module' ↔
        (∀ reference ∈ references, ∀ name ∈ reference.2.default ++ reference.2.named,
          name ∉ moduleReserved options) ∧ module' = module := by
  obtain ⟨-, -, declared, file, declares, found, same⟩ :=
    (render_inlined_eq_ok_iff inlined).mp rendered
  refine ⟨⟨declared, file, declares, found, rfl, ?_⟩,
    List.filter_append_perm isFutureImport site.entry,
    fun output references runnable module' => render_inlined_with_iff rendered inlined⟩
  rw [same, inlinedLayout, loading]
  simp only [List.append_assoc, List.cons_append, List.nil_append]

/-- A module that changes its language twice, between statements that occur twice. -/
def repetitive : List Stmt :=
  let change : Stmt := .importFrom (some "__future__") [{ name := "annotations" }] 0
  [.pass, change, .pass, change]

/-- Where that module is inlined, with a library that stands in a package. -/
def besideLibrary : Site where
  directory := ["work"]
  modules := ⟨"/lib", [["yargs", "__init__.py"]]⟩
  output := ⟨.none, ["cli.py"]⟩
  entry := repetitive

theorem inlined_entry_once_repetitive :
    ∃ module own,
      render besideLibrary (exporting "greet") { asyncFunction := true } { inlines := true } =
        .ok module ∧
      module = repetitive.filter isFutureImport ++ own ++ [.pass, .pass] ++
        [exportsList "cli"] ++ [wrapperFunction
          (wrapperBody (exporting "greet") { asyncFunction := true } [])
          { asyncFunction := true }, invocation "cli" none true] ∧
      render { besideLibrary with output := ⟨.none, ["bin", "cli.py"]⟩ }
        { exporting "greet" with references := [] } { asyncFunction := true, runnable := true }
        { inlines := true } = .ok module := by
  obtain ⟨module, rendered⟩ : ∃ module,
      render besideLibrary (exporting "greet") { asyncFunction := true } { inlines := true } =
        .ok module := ⟨_, rfl⟩
  obtain ⟨⟨declared, file, declares, -, -, same⟩, -, others⟩ := inlined_entry_once rendered rfl
  obtain rfl : declared = [] := List.map_eq_nil_iff.mp declares.symm
  refine ⟨module, loading { asyncFunction := true } file, rendered, ?_,
    (others _ _ _ _).mpr ⟨by simp, rfl⟩⟩
  rw [same]
  rfl

end EntryPoint
