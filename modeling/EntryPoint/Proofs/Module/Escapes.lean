/-
# Faults that a render does not declare

A render gives a module or stops with a failure that it declares: one of the
construction of the module, or one of a module that cannot be resolved. Two faults
escape. A call that makes no link is reported with the outline of what is called,
which has no text if it holds an integer without a numeral; and a file whose path
leads to the root has no suffix to lose. No others do, whatever the calls, names,
paths and options are.

## Main definitions

* `KeepsTo` - an operation gives a value, or stops with a failure of some kinds.
* `Signature.CallsEndless` - the call that is reported has no outline.
* `RefersToRoot` - the first file that has no module lies at the root.
* `Escapes` - a fault escapes a render.

## Main results

* `StopsAmong.keepsTo_iff` - an operation keeps to its kinds unless a fault is unforeseen.
* `chain_eq_failUnforeseen_iff`, `referenceImports_eq_failUnforeseen_iff` - the two faults.
* `render_keepsTo_iff` - when a render keeps to what it declares, and what escapes otherwise.
-/

import EntryPoint.Proofs.Chain.Text
import EntryPoint.Proofs.Module.Exports
import EntryPoint.Proofs.Program.Faults
import EntryPoint.Proofs.Signature.Declarations

namespace EntryPoint

open Syntax

variable {α : Type} {site : Site} {signature : Signature} {options : Options} {context : Context}
  {unforeseen : UnforeseenKind}

/-! ### Declared failures -/

/-- An operation keeps to some kinds: it gives a value, or it stops with a failure of a kind that is
one of them or refines one. -/
def KeepsTo (kinds : List FailureKind) (result : Except Fault α) : Prop :=
  (∃ value, result = .ok value) ∨
    ∃ kind, FailsAs kind result ∧ ∃ declared ∈ kinds, declared ∈ kind.lineage

/-- An operation that is stopped by failures of the kinds alone keeps to them unless a fault is not
foreseen. -/
theorem StopsAmong.keepsTo_iff {kinds declared : List FailureKind} {result : Except Fault α}
    (stops : StopsAmong kinds result)
    (covered : ∀ kind ∈ kinds, ∃ ancestor ∈ declared, ancestor ∈ kind.lineage) :
    KeepsTo declared result ↔ ∀ unforeseen, result ≠ failUnforeseen unforeseen := by
  constructor
  · rintro (⟨value, rfl⟩ | ⟨kind, ⟨message, rfl⟩, -⟩) unforeseen ⟨⟩
  · intro foreseen
    rcases stops.ok_or_failsAs foreseen with done | ⟨kind, member, failed⟩
    · exact .inl done
    · exact .inr ⟨kind, failed, covered kind member⟩

/-! ### Calls -/

/-- The calls of a signature: those of its positionals, then those of its options. -/
def Signature.calls (signature : Signature) : List Call :=
  signature.positionals.map (·.call) ++ signature.options.map (·.call)

/-- The first call of anything but a bare name calls something without an outline. -/
def Signature.CallsEndless (signature : Signature) : Prop :=
  ∃ call, signature.calls.find? (!·.isOfName) = some call ∧ ¬AreShort call.callee.integers

theorem declarations_eq_map (signature : Signature) :
    declarations signature = signature.calls.map Call.toExpr := by
  unfold declarations Signature.calls
  rw [List.map_append, List.map_map, List.map_map]
  rfl

/-- What escapes a chain is the outline of what is called, where a call is to be reported. -/
theorem chain_eq_failUnforeseen_iff {calls : List Call} {base : Expr} :
    chain (calls.map Call.toExpr) base = failUnforeseen unforeseen ↔
      (∃ call, calls.find? (!·.isOfName) = some call ∧ ¬AreShort call.callee.integers) ∧
        unforeseen = .value := by
  -- The first call that is not of a bare name decides: what stands before it only lengthens the
  -- chain.
  cases found : calls.find? (!·.isOfName) with
  | none =>
    have named : ∀ call ∈ calls, call.isOfName := by simpa using found
    obtain ⟨chained, succeeds⟩ := exists_chain_iff.mpr named
    rw [succeeds]
    exact iff_of_false (by rintro ⟨⟩) (by rintro ⟨⟨call, ⟨⟩, -⟩, -⟩)
  | some call =>
    rw [chain_eq_unchainable found]
    by_cases short : AreShort call.callee.integers
    · obtain ⟨message, failed⟩ := failsAs_unchainable_iff.mpr short
      rw [failed]
      exact iff_of_false (by rintro ⟨⟩) (by rintro ⟨⟨_, ⟨⟩, endless⟩, -⟩; exact endless short)
    · rw [unchainable_of_not_areShort short, failUnforeseen_inj]
      exact ⟨fun same => ⟨⟨call, rfl, short⟩, same.symm⟩, fun ⟨_, same⟩ => same.symm⟩

/-- The body of an entry point needs the check of the signature and the chain of its calls. -/
theorem renderBody_eq (signature : Signature) (options : Options) :
    renderBody signature options = (do
      checkSignature signature
      let declared ← chain (declarations signature) (.name parserName)
      .ok [functionOf builderName parserName [.returnValue (some declared)], handler signature,
        registration signature options]) := by
  cases checked : checkSignature signature with
  | error fault =>
    rw [renderBody, chainCalls, command, checked]
    rfl
  | ok =>
    have calls : chainCalls signature options =
        .ok ((chainLinks signature options).map Link.toExpr) :=
      chainCalls_eq_ok_iff.mpr ⟨checkSignature_eq_ok_iff.mp checked, rfl⟩
    have chained : chain ((chainLinks signature options).map Link.toExpr) (.name options.lib) =
        .ok _ := chain_links (chainLinks signature options)
    rw [renderBody, calls]
    change (chain ((chainLinks signature options).map Link.toExpr) (.name options.lib) >>= _) = _
    rw [chained]
    unfold callbacks builder
    cases chain (declarations signature) (.name parserName) <;> rfl

theorem renderBody_eq_failUnforeseen_iff :
    renderBody signature options = failUnforeseen unforeseen ↔
      signature.Accepted ∧ signature.CallsEndless ∧ unforeseen = .value := by
  rw [renderBody_eq, declarations_eq_map]
  constructor
  · intro escaped
    rcases bind_eq_error_iff.mp escaped with rejected | ⟨_, accepted, escaped⟩
    · exact absurd rejected (decides_checkSignature.ne_failUnforeseen unforeseen)
    -- After the check, the chain of the declarations alone can stop the body.
    · exact ⟨checkSignature_eq_ok_iff.mp accepted,
        chain_eq_failUnforeseen_iff.mp (bind_ok_eq_error_iff.mp escaped)⟩
  · rintro ⟨accepted, endless⟩
    refine bind_eq_error_iff.mpr (.inr ⟨(), checkSignature_eq_ok_iff.mpr accepted, ?_⟩)
    exact bind_eq_error_iff.mpr (.inl (chain_eq_failUnforeseen_iff.mpr endless))

/-- Where no call is endless, a body is given exactly if every call is one of a bare name. -/
theorem exists_renderBody_iff : (∃ body, renderBody signature options = .ok body) ↔
    signature.Accepted ∧ ∀ call ∈ signature.calls, call.isOfName := by
  rw [← exists_links_iff, ← declarations_eq_map]
  constructor
  · rintro ⟨body, made⟩
    obtain ⟨accepted, declared, links, -⟩ := renderBody_eq_ok_iff.mp made
    exact ⟨accepted, declared, links⟩
  · rintro ⟨accepted, declared, links⟩
    exact ⟨_, renderBody_eq_ok_iff.mpr ⟨accepted, declared, links, rfl⟩⟩

/-! ### Files -/

/-- A file that exports something lies at the root, and each such file in front of it has a
module. -/
def RefersToRoot (site : Site) (signature : Signature) : Prop :=
  ∃ before reference after,
    signature.references.filter (·.2.AreSome) = before ++ reference :: after ∧
    (∀ earlier ∈ before,
      ∃ specifier, relativeModule site.directory site.output earlier.1 = .ok specifier) ∧
    reference.1.resolve site.directory = []

section Files

variable {directory : List String} {output source : Path} {reference : Path × Exports}

/-- Only the root has no module path. -/
theorem modulePath_eq_error_iff {fault : Fault} : modulePath directory source = .error fault ↔
    source.resolve directory = [] ∧ fault = .unforeseen .value := by
  unfold modulePath
  dsimp only
  cases last : (source.resolve directory).getLast? with
  | none =>
    have root : source.resolve directory = [] := List.getLast?_eq_none_iff.mp last
    exact ⟨fun failed => ⟨root, (Except.error.inj failed).symm⟩, fun ⟨_, same⟩ => same ▸ rfl⟩
  | some name =>
    have below : source.resolve directory ≠ [] := by
      intro root
      rw [root] at last
      cases last
    refine iff_of_false ?_ fun ⟨root, _⟩ => below root
    dsimp only
    split
    · rintro ⟨⟩
    · rintro ⟨⟩

theorem relativeModule_eq_failUnforeseen_iff :
    relativeModule directory output source = failUnforeseen unforeseen ↔
      source.resolve directory = [] ∧ unforeseen = .value := by
  constructor
  · intro escaped
    rcases bind_eq_error_iff.mp escaped with escaped | ⟨target, -, escaped⟩
    · obtain ⟨root, same⟩ := modulePath_eq_error_iff.mp escaped
      exact ⟨root, Fault.unforeseen.inj same⟩
    · dsimp only at escaped
      split at escaped
      · cases escaped
      · cases escaped
  · rintro ⟨root, rfl⟩
    exact bind_eq_error_iff.mpr (.inl (modulePath_eq_error_iff.mpr ⟨root, rfl⟩))

theorem importing_eq_error_iff {fault : Fault} :
    importing directory output reference = .error fault ↔
      relativeModule directory output reference.1 = .error fault := by
  unfold importing
  cases relativeModule directory output reference.1 with
  | error other =>
    change Except.error other = _ ↔ _
    rw [Except.error.injEq, Except.error.injEq]
  | ok specifier => exact iff_of_false (by rintro ⟨⟩) (by rintro ⟨⟩)

theorem exists_importing_iff : (∃ stmt, importing directory output reference = .ok stmt) ↔
    ∃ specifier, relativeModule directory output reference.1 = .ok specifier := by
  unfold importing
  cases relativeModule directory output reference.1 with
  | error fault => exact iff_of_false (by rintro ⟨_, ⟨⟩⟩) (by rintro ⟨_, ⟨⟩⟩)
  | ok specifier => exact iff_of_true ⟨_, rfl⟩ ⟨specifier, rfl⟩

end Files

/-- What escapes the imports of references is a file at the root. -/
theorem referenceImports_eq_failUnforeseen_iff :
    referenceImports site.directory site.output signature = failUnforeseen unforeseen ↔
      RefersToRoot site signature ∧ unforeseen = .value := by
  have each (reference : Path × Exports) :
      importing site.directory site.output reference = .error (.unforeseen unforeseen) ↔
        reference.1.resolve site.directory = [] ∧ unforeseen = .value :=
    importing_eq_error_iff.trans relativeModule_eq_failUnforeseen_iff
  rw [referenceImports_eq_mapM]
  refine mapM_eq_error_iff.trans ?_
  unfold RefersToRoot
  -- What is left are two ways to say that the first file without a module is the root.
  simp only [exists_importing_iff, each]
  constructor
  · rintro ⟨before, reference, after, split, earlier, root, same⟩
    exact ⟨⟨before, reference, after, split, earlier, root⟩, same⟩
  · rintro ⟨⟨before, reference, after, split, earlier, root⟩, same⟩
    exact ⟨before, reference, after, split, earlier, root, same⟩

/-- The library is found, or that it cannot be is foreseen. -/
theorem libraryImports_ne_failUnforeseen (space : ModuleSpace) (name asName : String)
    (context : Context) : libraryImports space name asName context ≠ failUnforeseen unforeseen := by
  have found : space.find name ≠ failUnforeseen unforeseen := by
    unfold ModuleSpace.find
    split <;> rintro ⟨⟩
  unfold libraryImports
  split
  · intro escaped
    exact found (bind_ok_eq_error_iff.mp escaped)
  · rintro ⟨⟩

theorem wrap_eq_failUnforeseen_iff {body : List Stmt} :
    wrap site signature options context body = failUnforeseen unforeseen ↔
      context.inlines = false ∧ RefersToRoot site signature ∧ unforeseen = .value := by
  rw [← referenceImports_eq_failUnforeseen_iff]
  constructor
  · intro escaped
    -- The import of the library is no source of the fault, so that the module is wrapped, not
    -- inlined.
    have source := (wrap_eq_error escaped).resolve_right
      (libraryImports_ne_failUnforeseen site.modules _ _ context)
    unfold moduleSource at source
    split at source
    · cases source
    · rename_i imported
      exact ⟨Bool.eq_false_iff.mpr imported, bind_ok_eq_error_iff.mp source⟩
  · rintro ⟨imported, escaped⟩
    unfold wrap moduleSource
    rw [imported, escaped]
    rfl

/-! ### Renders -/

/-- A fault escapes a render: the signature and its names are accepted, and a call is endless, or
all calls are of bare names and a file that is to be imported lies at the root. -/
structure Escapes (site : Site) (signature : Signature) (options : Options) (context : Context) :
    Prop where
  apart : UserNamesApart signature options
  accepted : signature.Accepted
  fault : signature.CallsEndless ∨
    (∀ call ∈ signature.calls, call.isOfName) ∧ context.inlines = false ∧
      RefersToRoot site signature

theorem render_eq_failUnforeseen_iff :
    render site signature options context = failUnforeseen unforeseen ↔
      Escapes site signature options context ∧ unforeseen = .value := by
  constructor
  · intro escaped
    rcases bind_eq_error_iff.mp escaped with collided | ⟨_, apart, escaped⟩
    · exact absurd collided (decides_checkModuleNames.ne_failUnforeseen unforeseen)
    have apart : UserNamesApart signature options := checkModuleNames_eq_ok_iff.mp apart
    rcases bind_eq_error_iff.mp escaped with escaped | ⟨body, made, escaped⟩
    · obtain ⟨accepted, endless, same⟩ := renderBody_eq_failUnforeseen_iff.mp escaped
      exact ⟨⟨apart, accepted, .inl endless⟩, same⟩
    · obtain ⟨accepted, named⟩ := exists_renderBody_iff.mp ⟨body, made⟩
      obtain ⟨imported, root, same⟩ := wrap_eq_failUnforeseen_iff.mp escaped
      exact ⟨⟨apart, accepted, .inr ⟨named, imported, root⟩⟩, same⟩
  · rintro ⟨⟨apart, accepted, fault⟩, same⟩
    refine bind_eq_error_iff.mpr (.inr ⟨(), checkModuleNames_eq_ok_iff.mpr apart, ?_⟩)
    rcases fault with endless | ⟨named, imported, root⟩
    · exact bind_eq_error_iff.mpr
        (.inl (renderBody_eq_failUnforeseen_iff.mpr ⟨accepted, endless, same⟩))
    · obtain ⟨body, made⟩ := exists_renderBody_iff.mpr ⟨accepted, named⟩
      exact bind_eq_error_iff.mpr
        (.inr ⟨body, made, wrap_eq_failUnforeseen_iff.mpr ⟨imported, root, same⟩⟩)

/-- A render gives a module or stops with a failure of the construction of modules or of their
resolution, unless what is called cannot be outlined where a call is to be reported, or a file at
the root is to be imported. Then the only fault that escapes is one of values that cannot be. -/
theorem render_keepsTo_iff (site : Site) (signature : Signature) (options : Options)
    (context : Context) :
    (KeepsTo [.construction, .resolution] (render site signature options context) ↔
      ¬Escapes site signature options context) ∧
    ∀ unforeseen, render site signature options context = failUnforeseen unforeseen ↔
      Escapes site signature options context ∧ unforeseen = .value := by
  have kinds : ∀ kind ∈ renderingKinds,
      ∃ declared ∈ [FailureKind.construction, .resolution], declared ∈ kind.lineage := by
    decide
  refine ⟨?_, fun unforeseen => render_eq_failUnforeseen_iff⟩
  rw [(stopsAmong_render site signature options context).keepsTo_iff kinds]
  simp only [ne_eq, render_eq_failUnforeseen_iff]
  exact ⟨fun foreseen escapes => foreseen .value ⟨escapes, rfl⟩,
    fun contained unforeseen escaped => contained escaped.1⟩

/-- A function that the root itself is said to export. -/
def exportedByRoot : Signature :=
  { exporting "greet" with references := [(.ofNames [], { named := ["greet"] })] }

/-- A path that leads to the root is not reported. -/
theorem render_of_root_escapes :
    render besideFile exportedByRoot {} {} = failUnforeseen .value ∧
      ¬KeepsTo [.construction, .resolution] (render besideFile exportedByRoot {} {}) := by
  have escaped : render besideFile exportedByRoot {} {} = failUnforeseen .value := by rfl
  refine ⟨escaped, ?_⟩
  rw [escaped]
  rintro (⟨module, ⟨⟩⟩ | ⟨kind, ⟨message, ⟨⟩⟩, -⟩)

end EntryPoint
