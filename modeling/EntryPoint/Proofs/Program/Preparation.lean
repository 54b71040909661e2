/-
# What preparing a render comes to

Before a render prints or writes anything, it has found its options, read its
document and the module of the function, and made the text of the module. What is
prepared depends on the output that is asked for by its place alone.

## Main definitions

* `renderKinds` - the kinds of failures that can stop a render.
* `Prepared` - what a rendering was made of.

## Main results

* `prepares_prepare` - preparing writes neither files nor output.
* `prepared_of_outcome_prepare` - what a rendering was made of.
* `outcome_prepare_congr` - the same rendering for the same place.
-/

import EntryPoint.Program.Rendering
import EntryPoint.Proofs.Program.Faults
import EntryPoint.Proofs.Program.Report

namespace EntryPoint

open Document Session

/-- The kinds of failures that can stop a render. -/
def renderKinds : List FailureKind :=
  [.usage, .configuration, .signature, .invariant, .unsupported, .resolution]

variable {kinds : List FailureKind} {world after : World} {console : Console}
  {request : RenderRequest} {rendering : Rendering}

/-! ### Sources -/

variable (signature : .signature ∈ kinds)
include signature

/-- An input that is blank or cannot be read is a failure. -/
theorem prepares_readStandardInput : Prepares kinds readStandardInput := by
  refine .bind prepares_readInput fun content => ?_
  split
  · exact .stop signature _
  · split
    · exact .stop signature _
    · exact .pure _

omit signature in
theorem prepares_readTextOf (path : Path) : Prepares kinds (readTextOf path) := by
  refine .bind (prepares_readTextFile path) fun content => ?_
  split
  · exact .pure _
  · exact .orStop (.unforeseen .decoding)

/-- A file that is missing or blank is a failure, and so is one whose text is no document. -/
theorem prepares_loadDocument (name : String) : Prepares kinds (loadDocument name) := by
  have sub : [.signature] ⊆ kinds := by simpa using signature
  refine .bind (prepares_isFile _) fun stands => ?_
  split
  · refine .bind (prepares_readTextOf _) fun content => ?_
    split
    · exact .stop signature _
    · exact .orStop ((stopsAmong_readDocument content _).mono sub)
  · exact .stop signature _

/-- Wherever a document comes from, it is only read. -/
theorem prepares_loadSignature (name : String) : Prepares kinds (loadSignature name) := by
  have sub : [.signature] ⊆ kinds := by simpa using signature
  unfold loadSignature
  split
  · exact .bind (prepares_readStandardInput signature) fun _ =>
      .orStop ((stopsAmong_readDocument _ none).mono sub)
  · exact .bind (prepares_fetch _) fun _ => .orStop ((stopsAmong_documentOfReply _ _).mono sub)
  · exact prepares_loadDocument signature _

/-- The module of the function is only read, and never run. -/
theorem prepares_loadModule (name : String) (shown : Option Path) :
    Prepares kinds (loadModule name shown) := by
  have parsed (path : Path) (content : String) :
      Prepares kinds (orStop (parseModule path content)) :=
    .orStop ((stopsAmong_parseModule path content).mono (by simpa using signature))
  unfold loadModule
  split
  · exact .bind (prepares_readStandardInput signature) fun _ =>
      .bind prepares_directory fun _ => parsed _ _
  · refine .bind (prepares_isFile _) fun stands => ?_
    split
    · exact .bind (prepares_readTextOf _) fun _ => parsed _ _
    · exact .stop signature _

theorem prepares_entryBody (request : RenderRequest) : Prepares kinds (entryBody request) := by
  unfold entryBody
  split
  · exact .pure []
  · exact .bind (prepares_loadModule signature _ none) fun _ => .pure _

omit signature

theorem prepares_absolutePath (path : Path) : Prepares kinds (absolutePath path) :=
  .bind prepares_directory fun _ => .pure _

theorem prepares_referenceBase (name : String) : Prepares kinds (referenceBase name) := by
  unfold referenceBase
  split
  · exact .bind (prepares_absolutePath _) fun _ => .pure _
  · exact .pure none

/-! ### The steps of preparing -/

/-- Both the document and the module of the function come from the standard input. -/
def RenderRequest.SharesInput (request : RenderRequest) : Prop :=
  request.signature = standardInput ∧ request.entry = some standardInput

instance (request : RenderRequest) : Decidable request.SharesInput :=
  inferInstanceAs (Decidable (_ ∧ _))

/-- Warns of arguments that have no effect. -/
def warnOfArguments (console : Console) (request : RenderRequest) (options : Options) :
    Session Unit :=
  if request.context.args.isSome ∧ ¬ invokes options request.context then
    report console .warning "--arg has no effect unless the module is runnable or read from stdin"
  else pure ()

/-- Makes the text of a module. -/
def compose (console : Console) (request : RenderRequest) (options : Options)
    (signature : Signature) (target : Path) (entry : List Syntax.Stmt) : Session Rendering := do
  report console .trace (renderTrace signature options)
  let directory ← Host.directory
  let modules ← modulesNamed options.lib
  let source ← orStop
    (renderSource ⟨directory, modules, target, entry⟩ signature options request.context)
  return ⟨source, target, options, request.context⟩

/-- Prepares a render for a place, with the signature and the options of the run. -/
def prepareFor (console : Console) (request : RenderRequest) (options : Options)
    (signature : Signature) (target : Path) : Session Rendering := do
  let entry ← entryBody request
  warnOfArguments console request options
  compose console request options signature target entry

/-- What is needed before the place of the module: the options and the signature. -/
def findSignature (request : RenderRequest) : Session (Options × Signature) := do
  let options ← resolveOptions request.overrides
  let document ← loadSignature request.signature
  let base ← referenceBase request.signature
  let signature ← orStop (extract document base)
  return (options, signature)

/-- Prepares a render whose sources are apart. -/
def prepareApart (console : Console) (request : RenderRequest) : Session Rendering := do
  let (options, signature) ← findSignature request
  let target ← targetPath request options
  prepareFor console request options signature target

/-- To prepare is to find the signature, then the place of the module, then what is rendered to it.
-/
theorem prepare_eq (console : Console) (request : RenderRequest) :
    prepare console request =
      if request.SharesInput then
        stop .usage "The signature and the entry module cannot both come from stdin"
      else prepareApart console request := by
  unfold prepare
  by_cases shared : request.SharesInput
  · have both : request.signature = standardInput ∧ request.entry = some standardInput := shared
    rw [if_pos both, if_pos shared]
    rfl
  · have apart : ¬(request.signature = standardInput ∧ request.entry = some standardInput) := shared
    rw [if_neg apart, if_neg shared]
    simp only [prepareApart, findSignature, bind_assoc, pure_bind]
    -- Both sides take the same steps; the warning alone may be left out.
    refine bind_congr fun options => bind_congr fun document => bind_congr fun base =>
      bind_congr fun signature => bind_congr fun target => bind_congr fun entry => ?_
    unfold warnOfArguments compose
    split
    · rfl
    · simp only [pure_bind]

/-! ### Renders -/

/-- What is needed before the place of the module writes neither files nor output. -/
theorem prepares_findSignature (request : RenderRequest) :
    Prepares renderKinds (findSignature request) :=
  .bind (prepares_resolveOptions (by decide) _) fun _ =>
    .bind (prepares_loadSignature (by decide) _) fun _ =>
    .bind (prepares_referenceBase _) fun _ =>
    .bind (.orStop ((stopsAmong_extract _ _).mono (by decide))) fun _ => .pure _

theorem prepares_compose (console : Console) (request : RenderRequest) (options : Options)
    (signature : Signature) (target : Path) (entry : List Syntax.Stmt) :
    Prepares renderKinds (compose console request options signature target entry) :=
  .bind (prepares_report console _ _) fun _ => .bind prepares_directory fun _ =>
    .bind (prepares_modulesNamed _) fun _ =>
    .bind (.orStop ((stopsAmong_renderSource _ _ _ _).mono (by decide))) fun _ => .pure _

theorem prepares_prepareFor (console : Console) (request : RenderRequest) (options : Options)
    (signature : Signature) (target : Path) :
    Prepares renderKinds (prepareFor console request options signature target) := by
  refine .bind (prepares_entryBody (by decide) request) fun entry =>
    .bind ?_ fun _ => prepares_compose console request options signature target entry
  unfold warnOfArguments
  split
  · exact prepares_report console _ _
  · exact .pure ()

/-- Preparing a render writes neither files nor output. -/
theorem prepares_prepare (console : Console) (request : RenderRequest) :
    Prepares renderKinds (prepare console request) := by
  rw [prepare_eq]
  split
  · exact .stop (by decide) _
  · exact .bind (prepares_findSignature request) fun _ => .bind (prepares_absolutePath _) fun _ =>
      prepares_prepareFor console request _ _ _

/-! ### What was prepared -/

/-- The place of the module: where the output is asked for, or the file of the entry point's name in
the current directory. -/
def RenderRequest.place (request : RenderRequest) (directory : List String) (options : Options) :
    Path :=
  .ofNames ((Path.ofString (request.output.getD (options.functionName ++ ".py"))).resolve directory)

/-- A rendering is the text that comes of the steps of a run, each in the world that the one before
left: its options, the document that is asked for and what its references are seen from, the
signature in it, the module of the function, and the modules of the library. -/
inductive Prepared (world : World) (request : RenderRequest) : Rendering → Prop
  | of_steps {ready loaded read : World} {options : Options} {document : Pairs}
      {base : Option Path} {signature : Signature} {entry : List Syntax.Stmt}
      {modules : ModuleSpace} {source : String}
      (resolves : outcome (resolveOptions request.overrides) world = (.ok options, ready))
      (loads : outcome (loadSignature request.signature) ready = (.ok document, loaded))
      (sees : outcome (referenceBase request.signature) loaded = (.ok base, loaded))
      (extracts : extract document base = .ok signature)
      (reads : outcome (entryBody request) loaded = (.ok entry, read))
      (finds : outcome (modulesNamed options.lib) read = (.ok modules, read))
      (renders : renderSource
        ⟨world.directory, modules, request.place world.directory options, entry⟩ signature options
        request.context = .ok source) :
      Prepared world request
        ⟨source, request.place world.directory options, options, request.context⟩

theorem Prepared.options (prepared : Prepared world request rendering) :
    (outcome (resolveOptions request.overrides) world).1 = .ok rendering.options := by
  cases prepared with
  | of_steps resolves => exact congrArg Prod.fst resolves

theorem Prepared.target (prepared : Prepared world request rendering) :
    rendering.target = request.place world.directory rendering.options := by
  cases prepared
  rfl

theorem outcome_targetPath (request : RenderRequest) (options : Options) :
    outcome (targetPath request options) world =
      (.ok (request.place world.directory options), world) := rfl

/-- To find what references are seen from changes nothing and does not fail. -/
theorem exists_outcome_referenceBase (name : String) (world : World) :
    ∃ base, outcome (referenceBase name) world = (.ok base, world) := by
  unfold referenceBase
  split <;> exact ⟨_, rfl⟩

/-- What is needed before the place of the module is found step by step. -/
theorem exists_of_outcome_findSignature {options : Options} {signature : Signature}
    (found : outcome (findSignature request) world = (.ok (options, signature), after)) :
    ∃ ready document base,
      outcome (resolveOptions request.overrides) world = (.ok options, ready) ∧
      outcome (loadSignature request.signature) ready = (.ok document, after) ∧
      outcome (referenceBase request.signature) after = (.ok base, after) ∧
      extract document base = .ok signature := by
  obtain ⟨resolved, ready, resolves, found⟩ := exists_of_outcome_bind_eq_ok found
  obtain ⟨document, loaded, loads, found⟩ := exists_of_outcome_bind_eq_ok found
  obtain ⟨base, sees⟩ := exists_outcome_referenceBase request.signature loaded
  rw [outcome_bind_of_ok sees] at found
  obtain ⟨extracted, _, ended, same⟩ := exists_of_outcome_bind_eq_ok found
  rw [outcome_orStop] at ended
  cases same
  obtain ⟨extracts, rfl⟩ := Prod.mk.inj ended
  exact ⟨ready, document, base, resolves, loads, sees, extracts⟩

theorem exists_of_outcome_warnOfArguments {options : Options}
    (warned : outcome (warnOfArguments console request options) world = (.ok (), after)) :
    ∃ diagnostics, after = { world with diagnostics } := by
  unfold warnOfArguments at warned
  split at warned
  · exact exists_of_outcome_report warned
  · cases warned
    exact ⟨world.diagnostics, rfl⟩

/-- A text is made of the current directory and the modules as they stand. -/
theorem exists_of_outcome_compose {options : Options} {signature : Signature} {target : Path}
    {entry : List Syntax.Stmt}
    (composed : outcome (compose console request options signature target entry) world =
      (.ok rendering, after)) :
    ∃ source, rendering = ⟨source, target, options, request.context⟩ ∧
      renderSource ⟨world.directory, world.modulesNamed options.lib, target, entry⟩ signature
        options request.context = .ok source := by
  obtain ⟨_, _, reported, composed⟩ := exists_of_outcome_bind_eq_ok composed
  obtain ⟨diagnostics, rfl⟩ := exists_of_outcome_report reported
  rw [outcome_bind_of_ok outcome_directory,
    outcome_bind_of_ok (outcome_modulesNamed options.lib)] at composed
  obtain ⟨source, _, rendered, same⟩ := exists_of_outcome_bind_eq_ok composed
  rw [outcome_orStop] at rendered
  cases same
  exact ⟨source, rfl, congrArg Prod.fst rendered⟩

/-- What was prepared is such a rendering. -/
theorem prepared_of_outcome_prepare
    (prepared : outcome (prepare console request) world = (.ok rendering, after)) :
    Prepared world request rendering := by
  rw [prepare_eq] at prepared
  split at prepared
  · cases prepared
  · obtain ⟨⟨options, signature⟩, between, found, prepared⟩ := exists_of_outcome_bind_eq_ok prepared
    have grown := (prepares_findSignature request).grown_of_outcome found
    obtain ⟨ready, document, base, resolves, loads, sees, extracts⟩ :=
      exists_of_outcome_findSignature found
    rw [outcome_bind_of_ok (outcome_targetPath request options), grown.directory_eq] at prepared
    obtain ⟨entry, read, reads, prepared⟩ := exists_of_outcome_bind_eq_ok prepared
    have entered : Prepares renderKinds (entryBody request) :=
      prepares_entryBody (by decide) request
    have further := entered.grown_of_outcome reads
    -- A warning does not change which modules can be found.
    obtain ⟨_, _, warns, composed⟩ := exists_of_outcome_bind_eq_ok prepared
    obtain ⟨diagnostics, rfl⟩ := exists_of_outcome_warnOfArguments warns
    obtain ⟨source, rfl, renders⟩ := exists_of_outcome_compose composed
    have kept : World.modulesNamed { read with diagnostics } options.lib =
        read.modulesNamed options.lib := rfl
    rw [kept, further.directory_eq, grown.directory_eq] at renders
    exact .of_steps resolves loads sees extracts reads (outcome_modulesNamed options.lib) renders

/-- Preparing for the same place comes to the same, however the place is asked for. -/
theorem outcome_prepare_congr {output : Option String}
    (same : ∀ options, (outcome (resolveOptions request.overrides) world).1 = .ok options →
      { request with output := output }.place world.directory options =
        request.place world.directory options) :
    outcome (prepare console { request with output := output }) world =
      outcome (prepare console request) world := by
  rw [prepare_eq, prepare_eq]
  change outcome (if request.SharesInput then _ else _) world = _
  split
  · rfl
  -- The output is not asked for before the signature is found, and then for its place alone.
  · change outcome (findSignature request >>= _) world = outcome (findSignature request >>= _) world
    rw [outcome_bind, outcome_bind]
    rcases found : outcome (findSignature request) world with
      ⟨fault | ⟨options, signature⟩, between⟩
    · rfl
    · have grown := (prepares_findSignature request).grown_of_outcome found
      obtain ⟨_, _, _, resolves, -⟩ := exists_of_outcome_findSignature found
      have place := same options (congrArg Prod.fst resolves)
      dsimp only
      rw [outcome_bind_of_ok (outcome_targetPath _ _), outcome_bind_of_ok (outcome_targetPath _ _),
        grown.directory_eq, place]
      rfl

end EntryPoint
