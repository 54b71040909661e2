/-
# Bindings of a generated module

Every statement that a generated module is made of binds few names, and these do
not depend on the user: only the imports of references and an assignment inside of
the description bind more. Two functions stand inside of the entry point, and
nothing else in the module has statements of its own.

## Main definitions

* `wrapperScope`, `builderScope` - the entry point and its builder as scopes.
* `Stmt.Plain` - a statement without statements of its own.

## Main results

* `locals_wrapperScope` - the names that are local to the entry point.
* `within_layout_iff` - where the statements of the module stand.
-/

import EntryPoint.Proofs.Callback.Names
import EntryPoint.Proofs.Module.Layout
import EntryPoint.Proofs.Module.References
import Mathlib.Data.List.TakeWhile

namespace EntryPoint

open Syntax Text

variable {published : Published} {site : Site} {signature : Signature} {options : Options}
  {context : Context} {declared : List Link} {imports : List Stmt} {name : String}

/-! ### Statements of the module -/

theorem bound_ownImport (identifier : isIdentifier name) :
    (ownImport name).bound published = [name] := by
  have whole : name.toList.takeWhile (· ≠ '.') = name.toList := by
    rw [List.takeWhile_eq_self_iff]
    intro c member
    have point := point_notMem_identifier identifier
    grind
  simp only [ownImport, Stmt.bound, List.map_cons, List.map_nil, Alias.ofModule, Option.getD_none]
  rw [whole, String.ofList_toList]

/-- Names that are imported one by one are bound under themselves; all that a module publishes is
bound where the import asks for it. -/
theorem mem_bound_importOf_iff {source : Option String} {names : List String} {level : Nat} :
    name ∈ (importOf source names level).bound published ↔
      name ∈ names ∧ name ≠ "*" ∨ "*" ∈ names ∧ name ∈ published source level := by
  simp only [importOf, Stmt.bound, List.mem_flatMap, List.mem_map, Alias.ofMember]
  constructor
  -- A star binds what the module publishes, and any other member its own name.
  · rintro ⟨_, ⟨member, among, rfl⟩, bound⟩
    split at bound
    · rename_i star
      exact .inr ⟨star ▸ among, bound⟩
    · rename_i single
      obtain rfl : name = member := by simpa using bound
      exact .inl ⟨among, single⟩
  · rintro (⟨among, single⟩ | ⟨star, bound⟩)
    · exact ⟨_, ⟨name, among, rfl⟩, by simp [single]⟩
    · exact ⟨_, ⟨"*", star, rfl⟩, by simpa using bound⟩

@[simp] theorem bound_exportsList (functionName : String) :
    (exportsList functionName).bound published = ["__all__"] := by
  simp [exportsList, assignName, Stmt.bound, Expr.boundAsTarget, Expr.targets, Expr.assigned,
    textExpr]

@[simp] theorem bound_invocation (functionName : String) (args : Option (List String))
    (isAsync : Bool) : (invocation functionName args isAsync).bound published = [] := by
  cases args <;> cases isAsync <;>
    simp [invocation, Stmt.bound, callOf, Call.ofName, Call.toExpr, Expr.assigned, attributes,
      assignedKeywords, List.flatMap_map, textExpr]

/-- The head of the entry point. -/
def wrapperHead (options : Options) : FunctionHead where
  isAsync := options.asyncFunction
  name := options.functionName
  parameters.regular :=
    [{ name := argsName
       annotation := some (.subscript (.name "list") (.name "str"))
       default := some
        (.subscript (.attribute (.name "sys") "argv") (.slice (some one) none none)) }]
  returns := some (.constant .nothing)

theorem wrapperFunction_eq (body : List Stmt) :
    wrapperFunction body options = .functionDef (wrapperHead options) body :=
  rfl

@[simp] theorem bound_wrapperFunction (body : List Stmt) :
    (wrapperFunction body options).bound published = [options.functionName] := by
  simp [wrapperFunction_eq, wrapperHead, Stmt.bound, FunctionHead.bound, assignedParameters,
    assignedParameterList, assignedParameterOption, assignedOption, Expr.assigned, one]

/-! ### Statements of the entry point -/

/-- The names that an assignment inside of a link binds. -/
def Link.assigned (link : Link) : List String :=
  assignedEach link.args ++ assignedKeywords link.keywords

theorem assigned_foldl_extend (links : List Link) (base : Expr) :
    (links.foldl Expr.extend base).assigned = base.assigned ++ links.flatMap Link.assigned := by
  induction links generalizing base with
  | nil => simp
  | cons first rest ih =>
    rw [List.foldl_cons, ih, Expr.extend, Expr.assigned, Expr.assigned, List.flatMap_cons,
      Link.assigned]
    simp only [List.append_assoc]

/-- Of all links, only the one that registers the command has a part of the user. -/
theorem assigned_chainLinks :
    (chainLinks signature options).flatMap Link.assigned = signature.description.assigned := by
  have optional (included : Bool) (method : String) (args : List Expr)
      (none : args.flatMap Expr.assigned = []) :
      (optionalLink included method args).flatMap Link.assigned = [] := by
    cases included <;> simp [optionalLink, Link.assigned, assignedKeywords, none]
  simp [chainLinks, optional, commandLink, Link.assigned, assignedKeywords, Expr.assigned, textExpr]

@[simp] theorem bound_registration :
    (registration signature options).bound published = signature.description.assigned := by
  rw [registration, Stmt.bound, assigned_foldl_extend, assigned_chainLinks, Expr.assigned,
    List.nil_append]

@[simp] theorem bound_builderOf (declared : List Link) :
    (builderOf declared).bound published = [builderName] := by
  simp [builderOf, functionOf, Stmt.bound, FunctionHead.bound, assignedParameters,
    assignedParameterList, assignedParameterOption, assignedOption]

@[simp] theorem bound_handler : (handler signature).bound published = [handlerName] := by
  simp [handler, functionOf, Stmt.bound, FunctionHead.bound, assignedParameters,
    assignedParameterList, assignedParameterOption, assignedOption]

/-- The entry point as a scope. -/
def wrapperScope (signature : Signature) (options : Options) (declared : List Link) :
    Enclosing where
  head := wrapperHead options
  body := wrapperBody signature options declared

/-- The names that are local to the entry point. -/
theorem locals_wrapperScope :
    (wrapperScope signature options declared).locals published =
      [argsName, builderName, handlerName] ++ signature.description.assigned := by
  simp [wrapperScope, Enclosing.locals, wrapperHead, wrapperBody, Parameters.names]

/-! ### Places -/

/-- Whether a statement defines a function. -/
def Syntax.Stmt.isFunction : Stmt → Bool
  | .functionDef _ _ => true
  | _ => false

/-- A statement without statements of its own. -/
structure Syntax.Stmt.Plain (stmt : Stmt) : Prop where
  inner : stmt.inner = []
  notFunction : stmt.isFunction = false

/-- The builder as a scope. -/
def builderScope (declared : List Link) : Enclosing where
  head := { name := builderName, parameters := { regular := [{ name := parserName }] } }
  body := [.returnValue (some (declared.foldl Expr.extend (.name parserName)))]

theorem builderOf_eq_toStmt : builderOf declared = (builderScope declared).toStmt :=
  rfl

theorem wrapperFunction_eq_toStmt :
    wrapperFunction (wrapperBody signature options declared) options =
      (wrapperScope signature options declared).toStmt :=
  rfl

theorem plain_opening
    (referenced : referenceImports site.directory site.output signature = .ok imports) :
    ∀ stmt ∈ opening options context imports, stmt.Plain := by
  intro stmt member
  simp only [opening, List.mem_append, List.mem_map, List.mem_singleton] at member
  rcases member with (⟨name, -, rfl⟩ | imported) | rfl
  · exact ⟨rfl, rfl⟩
  · obtain ⟨-, -, source, level, -, -, rfl⟩ := (mem_referenceImports_iff referenced).mp imported
    exact ⟨rfl, rfl⟩
  · exact ⟨rfl, rfl⟩

/-- The statements of the module are plain, but for the entry point. -/
theorem plain_or_eq_of_mem_layout
    (referenced : referenceImports site.directory site.output signature = .ok imports)
    {stmt : Stmt} (member : stmt ∈ layout signature options context declared imports) :
    stmt.Plain ∨ stmt = (wrapperScope signature options declared).toStmt := by
  rw [layout, List.mem_append, List.mem_cons] at member
  rcases member with before | rfl | behind
  · exact .inl (plain_opening referenced stmt before)
  · exact .inr wrapperFunction_eq_toStmt
  · rw [eq_invocation_of_mem_closing behind]
    exact .inl ⟨rfl, rfl⟩

/-- The statements of the entry point are plain, but for the callbacks. -/
theorem plain_or_eq_of_mem_wrapperBody {stmt : Stmt}
    (member : stmt ∈ wrapperBody signature options declared) :
    stmt.Plain ∨ stmt = (builderScope declared).toStmt ∨
      stmt = (handlerScope signature).toStmt := by
  simp only [wrapperBody, List.mem_cons, List.not_mem_nil, or_false] at member
  rcases member with rfl | rfl | rfl
  · exact .inr (.inl builderOf_eq_toStmt)
  · exact .inr (.inr handler_eq_toStmt)
  · exact .inl ⟨rfl, rfl⟩

/-- A statement stands in the module by itself, in the entry point, or in one of its callbacks. -/
theorem within_layout_iff
    (referenced : referenceImports site.directory site.output signature = .ok imports)
    {around : List Enclosing} {stmt : Stmt} :
    Within (layout signature options context declared imports) around stmt ↔
      around = [] ∧ stmt ∈ layout signature options context declared imports ∨
      around = [wrapperScope signature options declared] ∧
        stmt ∈ wrapperBody signature options declared ∨
      around = [builderScope declared, wrapperScope signature options declared] ∧
        stmt ∈ (builderScope declared).body ∨
      around = [handlerScope signature, wrapperScope signature options declared] ∧
        stmt ∈ [handlerMatch signature, dispatch signature, mismatch] := by
  constructor
  · intro within
    -- Each step inwards leads from one of the four groups to itself or to the group inside of it.
    induction within with
    | top member => exact .inl ⟨rfl, member⟩
    | inner _ member ih =>
      rcases ih with ⟨rfl, here⟩ | ⟨rfl, here⟩ | ⟨rfl, here⟩ | ⟨rfl, here⟩
      · rcases plain_or_eq_of_mem_layout referenced here with plain | rfl
        · simp [plain.inner] at member
        · cases member
      · rcases plain_or_eq_of_mem_wrapperBody here with plain | rfl | rfl
        · simp [plain.inner] at member
        · cases member
        · cases member
      · obtain rfl := List.mem_singleton.mp here
        cases member
      · refine .inr (.inr (.inr ⟨rfl, ?_⟩))
        simp only [List.mem_cons, List.not_mem_nil, or_false] at here
        rcases here with rfl | rfl | rfl
        · exact List.mem_cons_of_mem _ member
        · cases member
        · cases member
    | body _ member ih =>
      rcases ih with ⟨rfl, here⟩ | ⟨rfl, here⟩ | ⟨rfl, here⟩ | ⟨rfl, here⟩
      · rcases plain_or_eq_of_mem_layout referenced here with plain | same
        · cases plain.notFunction
        · obtain ⟨rfl, rfl⟩ := Stmt.functionDef.inj same
          exact .inr (.inl ⟨rfl, member⟩)
      · rcases plain_or_eq_of_mem_wrapperBody here with plain | same | same
        · cases plain.notFunction
        · obtain ⟨rfl, rfl⟩ := Stmt.functionDef.inj same
          exact .inr (.inr (.inl ⟨rfl, member⟩))
        · obtain ⟨rfl, rfl⟩ := Stmt.functionDef.inj same
          exact .inr (.inr (.inr ⟨rfl, List.mem_cons.mpr (.inl (List.mem_singleton.mp member))⟩))
      · cases List.mem_singleton.mp here
      · simp [handlerMatch, dispatch, mismatch] at here
  · have entry : Within (layout signature options context declared imports) []
        (wrapperScope signature options declared).toStmt :=
      .top (List.mem_append_right _ List.mem_cons_self)
    rintro (⟨rfl, member⟩ | ⟨rfl, member⟩ | ⟨rfl, member⟩ | ⟨rfl, member⟩)
    · exact .top member
    · exact .body entry member
    · exact .body (.body entry List.mem_cons_self) member
    · have inside := Within.body (.body entry (List.mem_cons_of_mem _ List.mem_cons_self))
        (List.mem_singleton_self (handlerMatch signature))
      rcases List.mem_cons.mp member with rfl | member
      · exact inside
      · exact .inner inside member

/-! ### Behind the imports -/

/-- Whether a statement is an import. -/
def Syntax.Stmt.isImport : Stmt → Bool
  | .importModules _ | .importFrom _ _ _ => true
  | _ => false

/-- What stands behind the imports of references. -/
def behindImports (signature : Signature) (options : Options) (context : Context)
    (declared : List Link) : List Stmt :=
  exportsList options.functionName ::
    wrapperFunction (wrapperBody signature options declared) options :: closing options context

theorem layout_eq :
    layout signature options context declared imports =
      (ownModules options context).map ownImport ++ imports ++
        behindImports signature options context declared := by
  simp [layout, opening, behindImports]

/-- Behind the imports of references, the module binds its list of exports and the entry point. -/
theorem unbound_behindImports_iff :
    (∀ stmt ∈ behindImports signature options context declared, name ∉ stmt.bound published) ↔
      name ≠ "__all__" ∧ name ≠ options.functionName := by
  -- Behind the wrapper stands at most a call, which binds nothing.
  have call : ∀ stmt ∈ closing options context, stmt.bound published = [] := by
    intro stmt member
    rw [eq_invocation_of_mem_closing member, bound_invocation]
  rw [behindImports, List.forall_mem_cons, List.forall_mem_cons, bound_exportsList,
    bound_wrapperFunction, List.mem_singleton, List.mem_singleton]
  constructor
  · rintro ⟨exports, wrapper, -⟩
    exact ⟨exports, wrapper⟩
  · rintro ⟨exports, wrapper⟩
    exact ⟨exports, wrapper, fun stmt member => by simp [call stmt member]⟩

/-- No import stands behind the imports of references. -/
theorem notMem_behindImports {stmt : Stmt} (imports : stmt.isImport) :
    stmt ∉ behindImports signature options context declared := by
  intro member
  rw [behindImports, List.mem_cons, List.mem_cons] at member
  rcases member with rfl | rfl | behind
  · cases imports
  · cases imports
  · rw [eq_invocation_of_mem_closing behind] at imports
    cases imports

theorem isImport_of_mem_referenceImports {stmt : Stmt}
    (referenced : referenceImports site.directory site.output signature = .ok imports)
    (member : stmt ∈ imports) : stmt.isImport := by
  obtain ⟨_, _, _, _, _, _, rfl⟩ := (mem_referenceImports_iff referenced).mp member
  rfl

end EntryPoint
