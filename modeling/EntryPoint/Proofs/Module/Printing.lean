/-
# The printed module

A generated module is printed as text that is read as the same module. Names stand
in the text as they are, so they have to be read as they are written; every text of
the user is quoted, whatever it holds.

## Main definitions

* `Rendering.Legible` - names of the user that are read as they are written, and texts.

## Main results

* `renderSource_reads_back` - the text of a module is read as that module.
-/

import EntryPoint.Proofs.Callback.Printing
import EntryPoint.Proofs.Module.Layout
import EntryPoint.Proofs.Module.References
import EntryPoint.Proofs.Syntax.Imports

namespace EntryPoint

open Syntax Text Reader

variable {site : Site} {signature : Signature} {options : Options} {context : Context}
  {module imports : List Stmt} {declared : List Link} {level height : Nat} {label : String}

/-! ### Imports and exports -/

theorem ownImport_readsBack (isName : IsName label) : (ownImport label).ReadsBack level 0 :=
  (importModule_simple isName).readsBack

/-- An import reads back if its names do, and it imports at least one. -/
theorem importOf_readsBack {segments names : List String} (positive : 0 < height)
    (isSegment : ∀ segment ∈ segments, IsName segment) (isName : ∀ name ∈ names, IsName name)
    (nonempty : names ≠ []) :
    (importOf (sourceOf segments) names height).ReadsBack level 0 :=
  (importFrom_simple positive isSegment isName nonempty).readsBack

/-- The texts of a list are quoted one by one. -/
theorem listed_texts (height : Nat) (texts : List String) :
    ∃ shown tokens, Listed height (texts.map textExpr) shown tokens := by
  refine Listed.exists_of_forall fun expr member => ?_
  obtain ⟨text, -, rfl⟩ := List.mem_map.mp member
  exact ⟨_, _, .text text⟩

theorem exportsList_readsBack (name : String) : (exportsList name).ReadsBack level 1 := by
  obtain ⟨shown, tokens, listed⟩ := listed_texts 0 [name]
  exact (assign_simple (.ascii (by decide)) (by decide) (.list listed) (by decide)).readsBack

/-! ### The entry point -/

theorem isPlain_of_mem_optionalLink {included : Bool} {method : String} {args : List Expr}
    {link : Link} (member : link ∈ optionalLink included method args)
    (plain : Link.IsPlain height ⟨method, args, []⟩) : link.IsPlain height := by
  unfold optionalLink at member
  split at member
  · rw [List.mem_singleton.mp member]
    exact plain
  · cases member

/-- The links around the declarations are plain, as the description is a text. -/
theorem isPlain_of_mem_chainLinks (described : ∃ text, signature.description = textExpr text) :
    ∀ link ∈ chainLinks signature options, link.IsPlain 0 := by
  have isName : IsName builderName ∧ IsName handlerName ∧ IsName argsName :=
    ⟨.ascii (by decide), .ascii (by decide), .ascii (by decide)⟩
  obtain ⟨builds, handles, takes⟩ := isName
  obtain ⟨text, described⟩ := described
  intro link member
  simp only [chainLinks, List.mem_append, List.mem_singleton] at member
  -- Everything but the command is a call on texts, and the command takes names of the callbacks.
  rcases member with ((((member | rfl) | member) | member) | member) | rfl
  · exact isPlain_of_mem_optionalLink member (isPlain_of_forall (.ascii (by decide)) (by simp))
  · exact isPlain_of_forall (.ascii (by decide)) (by simp [described, builds, handles])
  · exact isPlain_of_mem_optionalLink member (isPlain_of_forall (.ascii (by decide)) (by simp))
  · exact isPlain_of_mem_optionalLink member (isPlain_of_forall (.ascii (by decide)) (by simp))
  · exact isPlain_of_mem_optionalLink member (isPlain_of_forall (.ascii (by decide)) (by simp))
  · exact isPlain_of_forall (.ascii (by decide)) (by simp [takes])

/-- The chain on the library opens no match statement, whatever the library is called. -/
theorem registration_readsBack (isLib : IsName options.lib)
    (described : ∃ text, signature.description = textExpr text) :
    (registration signature options).ReadsBack level 1 := by
  obtain ⟨shown, behind, written, opens⟩ :=
    foldl_extend_written (isPlain_of_mem_chainLinks described) (.name isLib)
  obtain ⟨others, rfl⟩ := opens (by simp [chainLinks])
  exact (expression_simple written (by decide) noSubject_of_point).readsBack

/-- A function reads back if its body does, with the default of its arguments in brackets. -/
theorem wrapperFunction_readsBack (isName : IsName options.functionName) {stmt : Stmt}
    {stmts : List Stmt} (body : ∀ inner ∈ stmt :: stmts, inner.ReadsBack 1 6)
    (plain : stmt.isText = false) :
    (wrapperFunction (stmt :: stmts) options).ReadsBack 0 7 := by
  obtain ⟨lines, inner, body⟩ := BodyWritten.exists_of_forall (by simp) body
  have list : (Expr.name "list").Written 6 "list" _ := .name (.ascii (by decide))
  have str : (Expr.name "str").Written 5 "str" _ := .name (.ascii (by decide))
  have sys : (Expr.name "sys").Written 6 "sys" _ := .name (.ascii (by decide))
  have argv : IsName "argv" := .ascii (by decide)
  have annotation := list.subscript str.indexed
  have default := (sys.attr argv).subscript indexed_afterFirst
  exact ⟨_, _, functionDef_written options.asyncFunction isName (by decide)
    (.one (.ascii (by decide)) (.present annotation) (.present default)) (.present .nothing)
    (by decide) body plain⟩

theorem invocation_readsBack (isName : IsName label) (args : Option (List String))
    (isAsync : Bool) : (invocation label args isAsync).ReadsBack level 3 := by
  obtain ⟨texts, tokens, listed⟩ : ∃ texts tokens, Listed 1
      (args.map fun args => Expr.list (args.map textExpr)).toList texts tokens := by
    cases args with
    | none => exact ⟨_, _, .none⟩
    | some args =>
      obtain ⟨shown, tokens, listed⟩ := listed_texts 0 args
      exact ⟨_, _, .some (.one (.list listed))⟩
  -- With arguments or without them, the entry point is called by its name.
  have called := (Expr.Written.name isName).call listed
  cases isAsync with
  | false =>
    have simple := expression_simple called (by decide) (noSubject_of_call listed)
    exact simple.readsBack.mono (by decide)
  | true =>
    have asyncio : (Expr.name "asyncio").Written 3 "asyncio" _ := .name (.ascii (by decide))
    have run : IsName "run" := .ascii (by decide)
    have finished := (asyncio.attr run).call (.some (.one called))
    exact (expression_simple finished (by decide) noSubject_of_point).readsBack

/-! ### The module -/

/-- A user whose names are read as they are written, where arguments are declared by default and the
description is a text. -/
structure Legible (site : Site) (signature : Signature) (options : Options) : Prop where
  name : IsName signature.name
  functionName : IsName options.functionName
  lib : IsName options.lib
  positionals : ∀ positional ∈ signature.positionals, IsName positional.name
  exports : ∀ reference ∈ signature.references, ∀ name ∈ importedExports reference.2, IsName name
  segments : ∀ reference ∈ signature.references, importedExports reference.2 ≠ [] →
    ∀ target, modulePath site.directory reference.1 = .ok target →
      ∀ segment ∈ segmentsTo site.directory site.output target, IsName segment
  description : ∃ text, signature.description = textExpr text
  byDefault : signature.DeclaresByDefault

/-- The imports of all references read back. -/
theorem readsBack_of_mem_imports (legible : Legible site signature options)
    (referenced : referenceImports site.directory site.output signature = .ok imports)
    {stmt : Stmt} (member : stmt ∈ imports) : stmt.ReadsBack 0 0 := by
  obtain ⟨reference, listed, source, level, exported, found, rfl⟩ :=
    (mem_referenceImports_iff referenced).mp member
  obtain ⟨target, placed, -, rfl, rfl⟩ := relativeModule_eq_ok_iff.mp found
  exact importOf_readsBack (Nat.succ_pos _)
    (legible.segments reference listed exported target placed) (legible.exports reference listed)
    exported

/-- So does all that stands in the wrapper. -/
theorem wrapperBody_readsBack (legible : Legible site signature options)
    (accepted : signature.Accepted) (declares : declarations signature = declared.map Link.toExpr) :
    ∀ stmt ∈ wrapperBody signature options declared, stmt.ReadsBack 1 6 := by
  -- The key of the bucket is reserved, so no positional has it.
  have apart : ∀ positional ∈ signature.positionals, positional.name ≠ bucketKey := by
    intro positional listed same
    have unreserved := accepted.positional_unreserved _ (List.mem_map_of_mem listed)
    exact unreserved (by rw [same]; exact .head _)
  intro stmt member
  simp only [wrapperBody, List.mem_cons, List.not_mem_nil, or_false] at member
  -- The three statements of the wrapper: the builder, the handler and the registration.
  rcases member with rfl | rfl | rfl
  · have plain : ∀ link ∈ declared, link.IsPlain 0 :=
      isPlain_of_declarations legible.byDefault declares
    exact (builder_readsBack (by decide) plain (by decide)).mono (by decide)
  · exact handler_readsBack (by decide) legible.name legible.positionals apart
  · exact (registration_readsBack legible.lib legible.description).mono (by decide)

theorem isName_of_mem_ownModules (isLib : IsName options.lib)
    (member : label ∈ ownModules options context) : IsName label := by
  simp only [ownModules, List.mem_cons, List.mem_append] at member
  rcases member with (rfl | member) | member
  · exact .ascii (by decide)
  · split at member
    · rw [List.mem_singleton.mp member]
      exact .ascii (by decide)
    · cases member
  · rcases member with rfl | member
    · exact isLib
    · cases member

/-- Every statement of a generated module is read back. -/
theorem layout_readsBack (legible : Legible site signature options) (accepted : signature.Accepted)
    (declares : declarations signature = declared.map Link.toExpr)
    (referenced : referenceImports site.directory site.output signature = .ok imports) :
    ∀ stmt ∈ layout signature options context declared imports, stmt.ReadsBack 0 7 := by
  intro stmt member
  simp only [layout, opening, List.mem_append, List.mem_map, List.mem_cons, List.not_mem_nil,
    or_false] at member
  -- Own imports, imports of references, the exports, the wrapper, and the call of it.
  rcases member with ((⟨name, own, rfl⟩ | member) | rfl) | rfl | member
  · exact (ownImport_readsBack (isName_of_mem_ownModules legible.lib own)).mono (by decide)
  · exact (readsBack_of_mem_imports legible referenced member).mono (by decide)
  · exact (exportsList_readsBack _).mono (by decide)
  · exact wrapperFunction_readsBack legible.functionName
      (wrapperBody_readsBack legible accepted declares) rfl
  · rw [eq_invocation_of_mem_closing member]
    exact (invocation_readsBack legible.functionName _ _).mono (by decide)

/-- The text of a generated module is read as that module, where the function is imported and all
names of the user are read as they are written. -/
theorem renderSource_reads_back (imported : context.inlines = false)
    (rendered : render site signature options context = .ok module)
    (legible : Legible site signature options) :
    ∃ text, renderSource site signature options context = .ok text ∧
      readModule text = .ok module := by
  obtain ⟨accepted, -, declared, imports, declares, referenced, same⟩ :=
    (render_eq_ok_iff imported).mp rendered
  -- The module opens with the import of `sys`, whose line alone is longer than its places are deep.
  obtain ⟨others, nonempty, opens⟩ : ∃ others, others ≠ [] ∧ module = ownImport "sys" :: others :=
    ⟨_, by simp, same⟩
  have each : ∀ stmt ∈ layout signature options context declared imports, stmt.ReadsBack 0 7 :=
    layout_readsBack legible accepted declares referenced
  rw [← same, opens] at each
  obtain ⟨lines, tokens, body⟩ :=
    BodyWritten.exists_of_forall nonempty fun stmt member => each stmt (.tail _ member)
  have sys : IsName "sys" := .ascii (by decide)
  have whole := BodyWritten.cons ((importModule_simple sys).written.mono (Nat.zero_le 7)) body
  have long : 7 ≤ (lineAt 0 ("import " ++ "sys")).toList.length := by decide
  obtain ⟨text, printed, read⟩ := readModule_of_bodyWritten whole rfl (by decide) <| by
    simp only [closedLines, List.flatMap_cons, List.length_append]
    omega
  refine ⟨text, ?_, opens ▸ read⟩
  rw [renderSource, rendered, opens]
  exact congrArg orUnprintable printed

/-- A function named like the word that opens a match statement, with texts of many kinds. -/
def matching : Signature where
  name := "match"
  description := textExpr "It's \"odd\" \\ \x7bcase\x7d:\n\x00\t\u00e9\u2028"
  positionals := [⟨"case", defaultCall "positional" "case", true⟩]
  options := [⟨"don't\n", defaultCall "option" "don't\n"⟩]
  references := [(⟨.none, ["lib", "words.py"]⟩, { default := ["match"], named := ["type"] })]

theorem renderSource_matching_reads_back :
    ∃ module, render besideFile matching { lib := "_", asyncFunction := true, runnable := true }
        { args := some ["\"", "'\r\n"] } = .ok module ∧
      Legible besideFile matching { lib := "_", asyncFunction := true, runnable := true } ∧
      ∃ text, renderSource besideFile matching
          { lib := "_", asyncFunction := true, runnable := true }
          { args := some ["\"", "'\r\n"] } = .ok text ∧ readModule text = .ok module := by
  have legible : Legible besideFile matching
      { lib := "_", asyncFunction := true, runnable := true } :=
    { name := .ascii (by decide)
      functionName := .ascii (by decide)
      lib := .ascii (by decide)
      positionals := List.forall_mem_singleton.mpr (.ascii (by decide))
      exports := List.forall_mem_singleton.mpr fun name member => by
        have names : importedExports { default := ["match"], named := ["type"] } =
            ["match", "type"] := rfl
        rw [names] at member
        rcases List.mem_pair.mp member with rfl | rfl <;> exact .ascii (by decide)
      segments := List.forall_mem_singleton.mpr fun _ target placed => by
        obtain rfl : ["work", "lib", "words"] = target := Except.ok.inj placed
        have segments : segmentsTo besideFile.directory besideFile.output
            ["work", "lib", "words"] = ["lib", "words"] := rfl
        rw [segments]
        intro segment member
        rcases List.mem_pair.mp member with rfl | rfl <;> exact .ascii (by decide)
      description := ⟨_, rfl⟩
      byDefault := ⟨List.forall_mem_singleton.mpr rfl, List.forall_mem_singleton.mpr rfl⟩ }
  obtain ⟨module, rendered⟩ : ∃ module, render besideFile matching
      { lib := "_", asyncFunction := true, runnable := true }
      { args := some ["\"", "'\r\n"] } = .ok module := ⟨_, rfl⟩
  exact ⟨module, rendered, legible, renderSource_reads_back rfl rendered legible⟩

end EntryPoint
