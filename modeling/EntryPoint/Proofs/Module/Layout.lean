/-
# The layout of a generated module

A render that imports the function fails or gives a module of one fixed layout:
imports and the list of exports, then the entry point, then perhaps its call. The
entry point consists of the two callbacks and one chain of links on the library.

## Main definitions

* `chainLinks`, `wrapperBody` - the links of the chain, and the body of the entry point.
* `opening`, `closing`, `layout` - what stands before and behind the entry point, and the whole.
* `UserNamesApart` - what the check of the user's names establishes.

## Main results

* `render_eq_ok_iff` - when a render succeeds, and the module that it gives.
-/

import EntryPoint.Proofs.Chain
import EntryPoint.Proofs.Signature.Accepted
import EntryPoint.Render

namespace EntryPoint

open Syntax Text

variable {site : Site} {signature : Signature} {options : Options} {context : Context}
  {module : List Stmt}

/-! ### The parts of the module -/

/-- The link that registers the command. -/
def commandLink (signature : Signature) : Link where
  method := "command"
  args := [textExpr (commandText signature), signature.description, .name builderName,
    .name handlerName]
  keywords := []

/-- A link that an option may leave out. -/
def optionalLink (included : Bool) (method : String) (args : List Expr) : List Link :=
  if included then [⟨method, args, []⟩] else []

/-- The links of the chain in order. -/
def chainLinks (signature : Signature) (options : Options) : List Link :=
  optionalLink options.strict "strict" [] ++ [commandLink signature] ++
    optionalLink options.help "help" [] ++
    optionalLink options.helpAlias "alias" [textExpr "help", textExpr "h"] ++
    optionalLink options.version "version" [] ++ [⟨"parse", [.name argsName], []⟩]

/-- The builder that makes given links. -/
def builderOf (declared : List Link) : Stmt :=
  functionOf builderName parserName
    [.returnValue (some (declared.foldl Expr.extend (.name parserName)))]

/-- The statement that registers the command and parses the arguments. -/
def registration (signature : Signature) (options : Options) : Stmt :=
  .expression ((chainLinks signature options).foldl Expr.extend (.name options.lib))

/-- The body of the entry point. -/
def wrapperBody (signature : Signature) (options : Options) (declared : List Link) : List Stmt :=
  [builderOf declared, handler signature, registration signature options]

/-- The modules that a generated module imports for itself. -/
def ownModules (options : Options) (context : Context) : List String :=
  "sys" :: (if options.asyncFunction && invokes options context then ["asyncio"] else []) ++
    [options.lib]

/-- The import of a module under its own name. -/
def ownImport (name : String) : Stmt :=
  .importModules [{ name }]

/-- What stands before the entry point, where the function is imported. -/
def opening (options : Options) (context : Context) (imports : List Stmt) : List Stmt :=
  (ownModules options context).map ownImport ++ imports ++ [exportsList options.functionName]

/-- What stands behind the entry point. -/
def closing (options : Options) (context : Context) : List Stmt :=
  if invokes options context then
    [invocation options.functionName context.args options.asyncFunction]
  else []

/-- At most the call of the entry point closes a module. -/
theorem eq_invocation_of_mem_closing {stmt : Stmt} (member : stmt ∈ closing options context) :
    stmt = invocation options.functionName context.args options.asyncFunction := by
  unfold closing at member
  split at member
  · exact List.mem_singleton.mp member
  · cases member

/-- The module around given links and imports, where the function is imported. -/
def layout (signature : Signature) (options : Options) (context : Context) (declared : List Link)
    (imports : List Stmt) : List Stmt :=
  opening options context imports ++
    wrapperFunction (wrapperBody signature options declared) options :: closing options context

/-! ### The names of the user -/

/-- The user's names are apart from those that the module binds for itself. -/
structure UserNamesApart (signature : Signature) (options : Options) : Prop where
  name : signature.name ∉ moduleReserved options
  exports : ∀ reference ∈ signature.references,
    ∀ name ∈ reference.2.default ++ reference.2.named, name ∉ moduleReserved options

theorem checkExports_eq_ok_iff {reserved : List String} {reference : Path × Exports} :
    checkExports reserved reference = .ok () ↔
      ∀ name ∈ reference.2.default ++ reference.2.named, name ∉ reserved := by
  unfold checkExports
  -- The check looks for the first name that is reserved.
  split
  · rename_i name found
    have member := List.mem_of_find?_eq_some found
    have taken := List.find?_some found
    simp only [fail, reduceCtorEq, false_iff]
    exact fun free => free name member (by simpa using taken)
  · rename_i missing
    rw [List.find?_eq_none] at missing
    simpa only [List.contains_iff_mem, true_iff] using missing

/-- The names of the options and of the references are checked before all else. -/
theorem checkModuleNames_eq_ok_iff :
    checkModuleNames signature options = .ok () ↔ UserNamesApart signature options := by
  unfold checkModuleNames
  dsimp only
  split
  · rename_i taken
    simp only [fail, reduceCtorEq, false_iff]
    exact fun apart => apart.name (by simpa using taken)
  · rename_i free
    simp only [forM_eq_ok_iff, checkExports_eq_ok_iff]
    exact ⟨fun exports => ⟨by simpa using free, exports⟩, fun apart => apart.exports⟩

/-! ### The layout -/

theorem command_eq_ok_iff {registered : Expr} :
    command signature = .ok registered ↔
      signature.Accepted ∧ registered = (commandLink signature).toExpr := by
  unfold command
  rw [check_bind_eq_ok_iff, checkSignature_eq_ok_iff, Except.ok.injEq, eq_comm (b := registered)]
  rfl

/-- The calls that declare an entry point are given for every accepted signature. -/
theorem chainCalls_eq_ok_iff {calls : List Expr} :
    chainCalls signature options = .ok calls ↔
      signature.Accepted ∧ calls = (chainLinks signature options).map Link.toExpr := by
  have linked (included : Bool) (method : String) (args : List Expr) :
      optionalCall included method args = (optionalLink included method args).map Link.toExpr := by
    cases included <;> rfl
  unfold chainCalls
  rw [bind_eq_ok_iff]
  simp only [command_eq_ok_iff, linked, chainLinks, List.map_append, List.map_cons, List.map_nil]
  -- Both ways the check of the command comes first, and it is all that can fail.
  constructor
  · rintro ⟨_, ⟨accepted, rfl⟩, same⟩
    exact ⟨accepted, (Except.ok.inj same).symm⟩
  · rintro ⟨accepted, rfl⟩
    exact ⟨_, ⟨accepted, rfl⟩, rfl⟩

theorem callbacks_eq_ok_iff {functions : List Stmt} :
    callbacks signature = .ok functions ↔ ∃ declared : List Link,
      declarations signature = declared.map Link.toExpr ∧
        functions = [builderOf declared, handler signature] := by
  unfold callbacks builder
  rw [bind_eq_ok_iff]
  simp only [bind_eq_ok_iff, chain_eq_ok_iff]
  constructor
  · rintro ⟨_, ⟨_, ⟨declared, same, rfl⟩, built⟩, both⟩
    obtain rfl := Except.ok.inj built
    exact ⟨declared, same, (Except.ok.inj both).symm⟩
  · rintro ⟨declared, same, rfl⟩
    exact ⟨_, ⟨_, ⟨declared, same, rfl⟩, rfl⟩, rfl⟩

/-- A body is rendered exactly if the signature is accepted and all of its calls can be chained. -/
theorem renderBody_eq_ok_iff {body : List Stmt} :
    renderBody signature options = .ok body ↔ signature.Accepted ∧ ∃ declared : List Link,
      declarations signature = declared.map Link.toExpr ∧
        body = wrapperBody signature options declared := by
  unfold renderBody
  rw [bind_eq_ok_iff]
  simp only [chainCalls_eq_ok_iff]
  constructor
  · rintro ⟨_, ⟨accepted, rfl⟩, rest⟩
    -- Links have names as callees, so their chain cannot fail.
    rw [chain_links] at rest
    obtain ⟨chained, folded, rest⟩ := bind_eq_ok_iff.mp rest
    obtain rfl := Except.ok.inj folded
    obtain ⟨functions, built, same⟩ := bind_eq_ok_iff.mp rest
    obtain ⟨declared, declares, rfl⟩ := callbacks_eq_ok_iff.mp built
    exact ⟨accepted, declared, declares, (Except.ok.inj same).symm⟩
  · rintro ⟨accepted, declared, declares, rfl⟩
    refine ⟨_, ⟨accepted, rfl⟩, ?_⟩
    rw [chain_links]
    have built := callbacks_eq_ok_iff.mpr ⟨declared, declares, rfl⟩
    exact bind_eq_ok_iff.mpr ⟨_, rfl, bind_eq_ok_iff.mpr ⟨_, built, rfl⟩⟩

/-- Where the function is imported, a module around a body consists of its opening, the entry point
and its closing. -/
theorem wrap_eq_ok_iff (imported : context.inlines = false) {body : List Stmt} :
    wrap site signature options context body = .ok module ↔ ∃ imports,
      referenceImports site.directory site.output signature = .ok imports ∧
        module = opening options context imports ++
          wrapperFunction body options :: closing options context := by
  have own : importModule "sys" "" ::
        (if options.asyncFunction && invokes options context then [importModule "asyncio" ""]
          else []) ++ [importModule options.lib options.lib] =
      (ownModules options context).map ownImport := by
    unfold ownModules
    split <;> simp [importModule, ownImport]
  unfold wrap moduleSource libraryImports
  -- Nothing is inlined, so of the sources only the references can fail.
  simp only [imported, Bool.false_eq_true, if_false, bind_eq_ok_iff]
  constructor
  · rintro ⟨_, ⟨imports, referenced, source⟩, _, library, same⟩
    obtain rfl := Except.ok.inj source
    obtain rfl := Except.ok.inj library
    obtain rfl := Except.ok.inj same
    refine ⟨imports, referenced, ?_⟩
    rw [opening, ← own, closing]
    simp [ModuleSource.opening, ModuleSource.remainder]
  · rintro ⟨imports, referenced, rfl⟩
    refine ⟨_, ⟨imports, referenced, rfl⟩, _, rfl, ?_⟩
    rw [opening, ← own, closing]
    simp [ModuleSource.opening, ModuleSource.remainder]

/-- A render that imports the function succeeds exactly when the signature is accepted, the names of
the user are apart, all declarations are links and all references can be imported. -/
theorem render_eq_ok_iff (imported : context.inlines = false) :
    render site signature options context = .ok module ↔
      signature.Accepted ∧ UserNamesApart signature options ∧ ∃ declared imports,
        declarations signature = List.map Link.toExpr declared ∧
        referenceImports site.directory site.output signature = .ok imports ∧
        module = layout signature options context declared imports := by
  unfold render
  rw [check_bind_eq_ok_iff, bind_eq_ok_iff, checkModuleNames_eq_ok_iff]
  simp only [renderBody_eq_ok_iff, wrap_eq_ok_iff imported]
  constructor
  · rintro ⟨apart, _, ⟨accepted, declared, declares, rfl⟩, imports, referenced, rfl⟩
    exact ⟨accepted, apart, declared, imports, declares, referenced, rfl⟩
  · rintro ⟨accepted, apart, declared, imports, declares, referenced, rfl⟩
    exact ⟨apart, _, ⟨accepted, declared, declares, rfl⟩, imports, referenced, rfl⟩

/-! ### A function in a file of its own -/

/-- A function of a given name that a file exports under that name. -/
def exporting (name : String) : Signature where
  name := name
  description := textExpr "Greets everyone."
  references := [(⟨.none, ["greet.py"]⟩, { named := [name] })]

/-- A module beside that file. -/
def besideFile : Site where
  directory := ["work"]
  modules := ⟨"/work", []⟩
  output := ⟨.none, ["cli.py"]⟩
  entry := []

end EntryPoint
