/-
# Reading a module back

A module tells what it was rendered from. The entry point is the first function in
it, and what follows tells whether it is called. Inside of the entry point the
builder holds the declared calls in order, the pattern of the handler says how many
of them are positionals, and the links of the chain hold the description and the
switches.

## Main results

* `builderOf_injective`, `handler_inj`, `registration_inj`, `closing_inj` - what the parts of a
  module tell.
* `inputs_eq_of_render_eq` - equal modules were rendered from equal inputs.
-/

import EntryPoint.Proofs.Module.Bindings

namespace EntryPoint

open Syntax Text

variable {site site' : Site} {signature signature' : Signature} {options options' : Options}
  {context context' : Context} {declared declared' : List Link} {imports imports' : List Stmt}

/-! ### The callbacks -/

/-- The builder tells all calls that it makes. -/
theorem builderOf_injective : Function.Injective builderOf := by
  intro declared declared' same
  have chained : declared.foldl Expr.extend (.name parserName) =
      declared'.foldl Expr.extend (.name parserName) := by
    simpa [builderOf, functionOf] using same
  exact (Expr.foldl_extend_name_inj chained).2

theorem textExpr_injective : Function.Injective textExpr := by
  intro text text' same
  simpa [textExpr] using same

theorem captureItem_injective : Function.Injective captureItem :=
  fun _ _ same => textExpr_injective (Prod.ext_iff.mp same).1

/-- The handler tells the name of the function and those of its positionals. -/
theorem handler_inj (same : handler signature = handler signature') :
    signature.name = signature'.name ∧
      signature.positionalNames = signature'.positionalNames := by
  have parts : destructuringPattern signature = destructuringPattern signature' ∧
      dispatch signature = dispatch signature' := by
    simpa [handler, functionOf] using same
  obtain ⟨patterns, calls⟩ := parts
  rw [destructuringPattern_eq, destructuringPattern_eq, Pattern.mapping.injEq] at patterns
  rw [dispatch_eq, dispatch_eq] at calls
  constructor
  · exact Expr.name.inj (Expr.call.inj (Stmt.expression.inj calls)).1
  -- The items behind the two keys of the parser are one for each positional.
  · have items := List.tail_eq_of_cons_eq (List.tail_eq_of_cons_eq patterns.1)
    exact (List.map_inj_right fun _ _ same => captureItem_injective same).mp items

/-! ### The chain -/

/-- The registration tells the library and all links of the chain. -/
theorem registration_inj
    (same : registration signature options = registration signature' options') :
    options.lib = options'.lib ∧ chainLinks signature options = chainLinks signature' options' :=
  Expr.foldl_extend_name_inj (Stmt.expression.inj same)

/-- A switch is set exactly if the chain has the link of it. -/
theorem mem_methods_chainLinks_iff {method : String} :
    method ∈ (chainLinks signature options).map (·.method) ↔
      method = "strict" ∧ options.strict ∨ method = "command" ∨ method = "help" ∧ options.help ∨
        method = "alias" ∧ options.helpAlias ∨ method = "version" ∧ options.version ∨
          method = "parse" := by
  have optional {included : Bool} {link : String} {args : List Expr} :
      method ∈ (optionalLink included link args).map (·.method) ↔ method = link ∧ included := by
    cases included <;> simp [optionalLink]
  simp only [chainLinks, List.map_append, List.mem_append, optional, List.map_cons, List.map_nil,
    List.mem_singleton, commandLink, or_assoc]

/-- Only one link of the chain registers a command. -/
theorem eq_commandLink_of_mem {link : Link} (member : link ∈ chainLinks signature options)
    (registers : link.method = "command") : link = commandLink signature := by
  have optional {included : Bool} {method : String} {args : List Expr}
      (other : method ≠ "command") : link ∉ optionalLink included method args := by
    cases included with
    | false => exact List.not_mem_nil
    | true =>
      rw [optionalLink, if_pos rfl, List.mem_singleton]
      rintro rfl
      exact other registers
  simp only [chainLinks, List.mem_append, List.mem_singleton] at member
  rcases member with ((((strict | command) | help) | other) | version) | parse
  · exact absurd strict (optional (by decide))
  · exact command
  · exact absurd help (optional (by decide))
  · exact absurd other (optional (by decide))
  · exact absurd version (optional (by decide))
  · rw [parse] at registers
    exact absurd registers (by decide)

/-- The chain tells the description and the switches. -/
theorem chainLinks_inj (same : chainLinks signature options = chainLinks signature' options') :
    signature.description = signature'.description ∧ options.strict = options'.strict ∧
      options.help = options'.help ∧ options.helpAlias = options'.helpAlias ∧
        options.version = options'.version := by
  have switches (method : String) :
      method ∈ (chainLinks signature options).map (·.method) ↔
        method ∈ (chainLinks signature' options').map (·.method) := by
    rw [same]
  simp only [mem_methods_chainLinks_iff] at switches
  have registers : commandLink signature ∈ chainLinks signature' options' := by
    rw [← same]
    simp [chainLinks]
  have command := eq_commandLink_of_mem registers rfl
  refine ⟨?_, Bool.eq_iff_iff.mpr (by simpa using switches "strict"),
    Bool.eq_iff_iff.mpr (by simpa using switches "help"),
    Bool.eq_iff_iff.mpr (by simpa using switches "alias"),
    Bool.eq_iff_iff.mpr (by simpa using switches "version")⟩
  simp only [commandLink, Link.mk.injEq, List.cons.injEq] at command
  exact command.2.1.2.1

/-! ### The module -/

/-- The declared calls, with the number of positionals, tell the calls of both kinds. -/
theorem declarations_inj (same : declarations signature = declarations signature')
    (names : signature.positionalNames = signature'.positionalNames) :
    signature.positionals.map (·.call) = signature'.positionals.map (·.call) ∧
      signature.options.map (·.call) = signature'.options.map (·.call) := by
  have toExpr_injective (call call' : Call) (same : call.toExpr = call'.toExpr) : call = call' := by
    cases call
    cases call'
    simpa [Call.toExpr] using same
  -- Positionals come first and are as many on both sides, so the calls are told apart by place.
  have count : signature.positionals.length = signature'.positionals.length := by
    simpa [Signature.positionalNames] using congrArg List.length names
  obtain ⟨positionals, options⟩ := List.append_inj same (by simpa using count)
  rw [← List.map_inj_right toExpr_injective, ← List.map_inj_right toExpr_injective]
  simpa [Function.comp_def] using And.intro positionals options

/-- The call of the entry point tells its arguments, also whether there are any. -/
theorem invocation_inj {name : String} {args args' : Option (List String)} {isAsync : Bool}
    (same : invocation name args isAsync = invocation name args' isAsync) : args = args' := by
  have call : callOf name (args.map fun args => Expr.list (args.map textExpr)).toList =
      callOf name (args'.map fun args => Expr.list (args.map textExpr)).toList := by
    cases isAsync <;> simpa [invocation] using same
  have lists := (Expr.call.inj call).2.1
  cases args with
  | none =>
    cases args' with
    | none => rfl
    | some args' => cases lists
  | some args =>
    cases args' with
    | none => cases lists
    | some args' =>
      have texts := Expr.list.inj (List.head_eq_of_cons_eq lists)
      rw [(List.map_inj_right fun _ _ same => textExpr_injective same).mp texts]

/-- The entry point is the first function of a module: it and what follows can be told apart from
what stands before them. -/
theorem layout_inj
    (referenced : referenceImports site.directory site.output signature = .ok imports)
    (referenced' : referenceImports site'.directory site'.output signature' = .ok imports')
    (same : layout signature options context declared imports =
      layout signature' options' context' declared' imports') :
    wrapperFunction (wrapperBody signature options declared) options =
        wrapperFunction (wrapperBody signature' options' declared') options' ∧
      closing options context = closing options' context' := by
  -- The imports may differ, also in number, so both lists are cut at their first function.
  have entry {site : Site} {signature : Signature} {options : Options} {context : Context}
      {declared : List Link} {imports : List Stmt}
      (referenced : referenceImports site.directory site.output signature = .ok imports) :
      (layout signature options context declared imports).dropWhile (!·.isFunction) =
        wrapperFunction (wrapperBody signature options declared) options ::
          closing options context := by
    have plain : ∀ stmt ∈ opening options context imports, !stmt.isFunction := by
      intro stmt member
      simp [(plain_opening referenced stmt member).notFunction]
    rw [layout, List.dropWhile_append_of_pos plain]
    rfl
  have behind := congrArg (List.dropWhile (!·.isFunction)) same
  rw [entry referenced, entry referenced'] at behind
  exact List.cons.inj behind

/-- The closing tells whether the entry point is called, and if so with which arguments. -/
theorem closing_inj (imported : context.inlines = false) (imported' : context'.inlines = false)
    (name : options.functionName = options'.functionName)
    (async : options.asyncFunction = options'.asyncFunction)
    (same : closing options context = closing options' context') :
    options.runnable = options'.runnable ∧ (options.runnable → context.args = context'.args) := by
  unfold closing invokes at same
  rw [imported, imported', Bool.or_false, Bool.or_false, name, async] at same
  cases runnable : options.runnable with
  | false =>
    cases runnable' : options'.runnable with
    | false => simp
    | true => simp [runnable, runnable'] at same
  | true =>
    cases runnable' : options'.runnable with
    | false => simp [runnable, runnable'] at same
    | true =>
      simp only [runnable, runnable', if_true, List.cons.injEq, and_true] at same
      exact ⟨rfl, fun _ => invocation_inj same⟩

/-- The entry point tells all that it was made from. -/
theorem wrapperFunction_inj
    (same : wrapperFunction (wrapperBody signature options declared) options =
      wrapperFunction (wrapperBody signature' options' declared') options') :
    options.functionName = options'.functionName ∧
      options.asyncFunction = options'.asyncFunction ∧ declared = declared' ∧
        handler signature = handler signature' ∧
          registration signature options = registration signature' options' := by
  rw [wrapperFunction_eq, wrapperFunction_eq, Stmt.functionDef.injEq, wrapperBody,
    wrapperBody] at same
  obtain ⟨head, body⟩ := same
  simp only [wrapperHead, FunctionHead.mk.injEq] at head
  simp only [List.cons.injEq, and_true] at body
  exact ⟨head.2.1, head.1, builderOf_injective body.1, body.2.1, body.2.2⟩

/-- Equal modules were rendered from equal inputs, where the function is imported. -/
theorem inputs_eq_of_render_eq {module : List Stmt}
    (imported : context.inlines = false) (imported' : context'.inlines = false)
    (rendered : render site signature options context = .ok module)
    (rendered' : render site' signature' options' context' = .ok module) :
    signature.name = signature'.name ∧ signature.description = signature'.description ∧
      signature.positionalNames = signature'.positionalNames ∧
      signature.positionals.map (·.call) = signature'.positionals.map (·.call) ∧
      signature.options.map (·.call) = signature'.options.map (·.call) ∧
      options = options' ∧ (options.runnable → context.args = context'.args) := by
  obtain ⟨-, -, declared, imports, declares, referenced, rfl⟩ :=
    (render_eq_ok_iff imported).mp rendered
  obtain ⟨-, -, declared', imports', declares', referenced', same⟩ :=
    (render_eq_ok_iff imported').mp rendered'
  -- From the module back: the wrapper and what stands behind it, then the parts of the wrapper.
  obtain ⟨wrapper, closes⟩ := layout_inj referenced referenced' same
  obtain ⟨functionName, isAsync, rfl, handlers, registers⟩ := wrapperFunction_inj wrapper
  obtain ⟨name, positionals⟩ := handler_inj handlers
  obtain ⟨lib, links⟩ := registration_inj registers
  obtain ⟨description, strict, help, helpAlias, version⟩ := chainLinks_inj links
  obtain ⟨runnable, args⟩ := closing_inj imported imported' functionName isAsync closes
  obtain ⟨positionalCalls, optionCalls⟩ :=
    declarations_inj (declares.trans declares'.symm) positionals
  refine ⟨name, description, positionals, positionalCalls, optionCalls, ?_, args⟩
  cases options
  cases options'
  simp_all

/-- A function of one option, whose call does not depend on the name that the option is given. -/
def flagged (name : String) : Signature :=
  { exporting "greet" with options := [⟨name, defaultCall "option" "volume"⟩] }

/-- The name of an option itself is not told, only the call that declares it. -/
theorem inputs_eq_of_render_flagged :
    ∃ module,
      render besideFile (flagged "volume") { runnable := true } { args := some [] } =
        .ok module ∧
      render besideFile (flagged "level") { runnable := true } { args := some [] } =
        .ok module ∧
      (flagged "volume").name = (flagged "level").name ∧
      (flagged "volume").description = (flagged "level").description ∧
      (flagged "volume").options.map (·.call) = (flagged "level").options.map (·.call) := by
  obtain ⟨module, rendered, rendered'⟩ : ∃ module,
      render besideFile (flagged "volume") { runnable := true } { args := some [] } =
        .ok module ∧
      render besideFile (flagged "level") { runnable := true } { args := some [] } =
        .ok module := ⟨_, rfl, rfl⟩
  obtain ⟨name, description, -, -, calls, -⟩ := inputs_eq_of_render_eq rfl rfl rendered rendered'
  exact ⟨module, rendered, rendered', name, description, calls⟩

end EntryPoint
