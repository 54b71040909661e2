/-
# What can stop a render

A document that is no signature, a signature that cannot be rendered and a module
that cannot be found are failures of their kinds. Nothing else stops a render but
what is not foreseen.

## Main results

* `stopsAmong_readDocument`, `stopsAmong_extract` - documents and signatures.
* `stopsAmong_render`, `stopsAmong_renderSource` - a module and its text.
-/

import EntryPoint.Program.Rendering
import EntryPoint.Proofs.Failure

namespace EntryPoint

open Document Syntax

/-! ### Documents -/

/-- A document that is no mapping is a failure of its kind. -/
theorem stopsAmong_requireMapping (value : Value) (nullName : String) :
    StopsAmong [.signature] (requireMapping value nullName) := by
  unfold requireMapping
  split
  · exact .ok _
  · exact .fail (.head _) _
  · exact .fail (.head _) _

/-- A document of YAML that cannot be read is a failure, or one of its values is not foreseen. -/
theorem stopsAmong_readYamlDocument (content : String) (jsonComplaint : Option String) :
    StopsAmong [.signature] (readYamlDocument content jsonComplaint) := by
  unfold readYamlDocument
  split
  · exact stopsAmong_requireMapping _ _
  · exact .unforeseen _
  · exact .fail (.head _) _

/-- Whatever its format, a document that cannot be read is no failure but one of its kind. -/
theorem stopsAmong_readDocument (content : String) (format : Option Format) :
    StopsAmong [.signature] (readDocument content format) := by
  unfold readDocument
  split
  · exact stopsAmong_readYamlDocument content none
  · split
    · exact stopsAmong_requireMapping _ _
    · exact .unforeseen .value
    · dsimp only
      split
      · exact .fail (.head _) _
      · exact stopsAmong_readYamlDocument content _

/-- So is an answer of the network that brings no document. -/
theorem stopsAmong_documentOfReply (address : String) (reply : Except String Reply) :
    StopsAmong [.signature] (documentOfReply address reply) := by
  unfold documentOfReply
  split
  · exact .fail (.head _) _
  · split
    · exact stopsAmong_readDocument _ _
    · exact .fail (.head _) _

theorem stopsAmong_parseModule (path : Path) (content : String) :
    StopsAmong [.signature] (parseModule path content) := by
  unfold parseModule
  split
  · exact .ok _
  · exact .unforeseen .value
  · exact .fail (.head _) _

/-! ### Signatures -/

/-- A text that is no call is a failure, but for one with a null character, which is not foreseen.
-/
theorem stopsAmong_parseCall (source : String) : StopsAmong [.signature] (parseCall source) := by
  unfold parseCall
  split
  · exact .unforeseen .value
  · exact .fail (.head _) _
  · exact .ok _
  · exact .fail (.head _) _

/-- A list of entries has the wrong shape, or it is read. -/
theorem stopsAmong_entries (document : Pairs) (key : String) :
    StopsAmong [.signature] (entries document key) := by
  unfold entries
  dsimp only
  split
  · exact .ok []
  · split
    · split
      · exact .ok _
      · exact .fail (.head _) _
    · exact .fail (.head _) _

/-- Only an integer that is too long to be written stops a text, and that is not foreseen. -/
theorem stopsAmong_writtenText (value : Value) : StopsAmong [.signature] (writtenText value) := by
  unfold writtenText
  split
  · exact .ok _
  · exact .unforeseen .value

theorem stopsAmong_call (callee : String) (entry : Entry) :
    StopsAmong [.signature] (entry.call callee) := by
  unfold Entry.call
  split
  · exact .ok _
  · exact .bind (stopsAmong_writtenText _) fun _ => stopsAmong_parseCall _

theorem stopsAmong_extractDescription (document : Pairs) :
    StopsAmong [.signature] (extractDescription document) := by
  unfold extractDescription
  dsimp only
  split
  · exact .bind (stopsAmong_writtenText _) fun _ => .ok _
  · exact .ok _

theorem stopsAmong_exportedNames (file : String) (value : Value) :
    StopsAmong [.signature] (exportedNames file value) := by
  unfold exportedNames
  split
  · exact .ok []
  · exact .ok _
  · split
    · exact .ok _
    · exact .fail (.head _) _
  · exact .fail (.head _) _

/-- The exports of a file have the wrong shape, or they are read. -/
theorem stopsAmong_exportsOf (file : String) (value : Value) :
    StopsAmong [.signature] (exportsOf file value) := by
  unfold exportsOf
  split
  · exact .ok _
  · split
    · exact .bind (stopsAmong_exportedNames file _) fun _ =>
        .bind (stopsAmong_exportedNames file _) fun _ => .ok _
    · exact .fail (.head _) _

theorem stopsAmong_extractReferences (directory : Option Path) (value : Value) :
    StopsAmong [.signature] (extractReferences directory value) := by
  -- References are added one by one, and each may fail on its own.
  have each (references : List (Path × Exports)) (pair : Value × Value) :
      StopsAmong [.signature] (addReference directory references pair) := by
    unfold addReference
    split
    · exact .bind (stopsAmong_exportsOf _ _) fun _ => .ok _
    · exact .unforeseen .type
  unfold extractReferences
  split
  · exact .ok []
  · split
    · exact .foldlM each
    · exact .fail (.head _) _

theorem stopsAmong_extractName (document : Pairs) :
    StopsAmong [.signature] (extractName document) := by
  unfold extractName
  split
  · split
    · exact .fail (.head _) _
    · exact .ok _
  · exact .fail (.head _) _

/-- A document that is no signature is a failure of its kind. -/
theorem stopsAmong_extract (document : Pairs) (directory : Option Path) :
    StopsAmong [.signature] (extract document directory) :=
  .bind (stopsAmong_extractName document) fun _ =>
    .bind (stopsAmong_entries document "positionals") fun _ =>
    .bind (.mapM fun entry => .bind (stopsAmong_call _ entry) fun _ => .ok _) fun _ =>
    .bind (stopsAmong_entries document "options") fun _ =>
    .bind (.mapM fun entry => .bind (stopsAmong_call _ entry) fun _ => .ok _) fun _ =>
    .bind (stopsAmong_extractDescription document) fun _ =>
    .bind (stopsAmong_extractReferences directory _) fun _ => .ok _

/-! ### Modules -/

/-- The kinds of failures in signatures and modules that cannot be rendered. -/
def renderingKinds : List FailureKind := [.invariant, .unsupported, .resolution]

variable {signature : Signature} {options : Options} {context : Context} {site : Site}

theorem stopsAmong_orUnprintable {α : Type} (printed : Except Unprintable α) :
    StopsAmong renderingKinds (orUnprintable printed) := by
  cases printed with
  | error unprintable => exact .unforeseen .value
  | ok value => exact .ok value

/-- A call that cannot be chained is a failure if its callee can be shown, and not foreseen if not.
-/
theorem stopsAmong_chain (calls : List Expr) (base : Expr) :
    StopsAmong renderingKinds (chain calls base) := by
  refine .foldlM fun receiver call => ?_
  unfold attach
  split
  · exact .ok _
  · have refused (found : String) : StopsAmong renderingKinds
        (fail .invariant ("Only calls with a bare name callee can be chained, got " ++ found) :
          Except Fault Expr) := .fail (by decide) _
    unfold unchainable
    dsimp only
    split
    · exact .bind (stopsAmong_orUnprintable _) refused
    · exact .bind (.ok _) refused

/-- A signature is checked by steps that fail in two kinds only. -/
theorem stopsAmong_checkSignature (signature : Signature) :
    StopsAmong renderingKinds (checkSignature signature) := by
  -- The name is checked first, then every positional, then every option.
  have name : StopsAmong renderingKinds (checkName signature) := by
    unfold checkName
    split
    · exact .fail (by decide) _
    · split
      · exact .fail (by decide) _
      · exact .ok ()
  have positional (seen : List String) (positional : Positional) :
      StopsAmong renderingKinds (checkPositional signature seen positional) := by
    unfold checkPositional
    dsimp only
    split
    · exact .fail (by decide) _
    · split
      · exact .fail (by decide) _
      · split
        · exact .fail (by decide) _
        · split
          · exact .fail (by decide) _
          · exact .ok ()
  have positionals (seen : List String) (members : List Positional) :
      StopsAmong renderingKinds (checkPositionals signature seen members) := by
    induction members generalizing seen with
    | nil => exact .ok ()
    | cons first members ih => exact .bind (positional seen first) fun _ => ih _
  have options (names seen : List String) (members : List Flag) :
      StopsAmong renderingKinds (checkOptions names seen members) := by
    induction members generalizing seen with
    | nil => exact .ok ()
    | cons first members ih =>
      unfold checkOptions
      split
      · exact .fail (by decide) _
      · split
        · exact .fail (by decide) _
        · exact ih _
  exact .bind name fun _ => .bind (positionals _ _) fun _ => options _ _ _

theorem stopsAmong_checkModuleNames (signature : Signature) (options : Options) :
    StopsAmong renderingKinds (checkModuleNames signature options) := by
  have each (reference : Path × Exports) :
      StopsAmong renderingKinds (checkExports (moduleReserved options) reference) := by
    unfold checkExports
    split
    · exact .fail (by decide) _
    · exact .ok ()
  unfold checkModuleNames
  dsimp only
  split
  · exact .fail (by decide) _
  · exact .forM each

/-- The module of a reference has a name that cannot be imported, or its path has no name at all. -/
theorem stopsAmong_referenceImports (directory : List String) (output : Path)
    (signature : Signature) :
    StopsAmong renderingKinds (referenceImports directory output signature) := by
  -- A path without a last name is not foreseen; one with a name that no module has is a failure.
  have path (source : Path) : StopsAmong renderingKinds (modulePath directory source) := by
    unfold modulePath
    dsimp only
    split
    · exact .unforeseen .value
    · split
      · exact .ok _
      · exact .ok _
  have specifier (source : Path) :
      StopsAmong renderingKinds (relativeModule directory output source) := by
    refine .bind (path source) fun target => ?_
    dsimp only
    split
    · exact .fail (by decide) _
    · exact .ok _
  have each (reference : Path × Exports) :
      StopsAmong renderingKinds (referenceImport directory output reference) := by
    unfold referenceImport
    split
    · exact .ok none
    · exact .bind (specifier reference.1) fun _ => .ok _
  exact .bind (.mapM each) fun _ => .ok _

/-- A library that is not found is a failure. -/
theorem stopsAmong_find (space : ModuleSpace) (name : String) :
    StopsAmong renderingKinds (space.find name) := by
  unfold ModuleSpace.find
  split
  · exact .fail (by decide) _
  · exact .fail (by decide) _
  · exact .ok _
  · exact .ok _
  · exact .fail (by decide) _

/-- The module around a body fails by its references or its library. -/
theorem stopsAmong_wrap (body : List Stmt) :
    StopsAmong renderingKinds (wrap site signature options context body) := by
  -- The library is looked for only where the module of the function is inlined.
  have source : StopsAmong renderingKinds (moduleSource site signature context) := by
    unfold moduleSource
    split
    · exact .ok _
    · exact .bind (stopsAmong_referenceImports _ _ _) fun _ => .ok _
  have library : StopsAmong renderingKinds
      (libraryImports site.modules options.lib options.lib context) := by
    unfold libraryImports
    split
    · exact .bind (stopsAmong_find _ _) fun _ => .ok _
    · exact .ok _
  exact .bind source fun _ => .bind library fun _ => .ok _

theorem stopsAmong_renderBody (signature : Signature) (options : Options) :
    StopsAmong renderingKinds (renderBody signature options) := by
  have command : StopsAmong renderingKinds (command signature) :=
    .bind (stopsAmong_checkSignature signature) fun _ => .ok _
  have calls : StopsAmong renderingKinds (chainCalls signature options) :=
    .bind command fun _ => .ok _
  have callbacks : StopsAmong renderingKinds (callbacks signature) :=
    .bind (.bind (stopsAmong_chain _ _) fun _ => .ok _) fun _ => .ok _
  exact .bind calls fun _ => .bind (stopsAmong_chain _ _) fun _ => .bind callbacks fun _ => .ok _

/-- A render is stopped by failures of a few kinds, or by what is not foreseen. -/
theorem stopsAmong_render (site : Site) (signature : Signature) (options : Options)
    (context : Context) : StopsAmong renderingKinds (render site signature options context) :=
  .bind (stopsAmong_checkModuleNames _ _) fun _ =>
    .bind (stopsAmong_renderBody _ _) fun _ => stopsAmong_wrap _

/-- So is the text of a module, which is not foreseen to be unprintable. -/
theorem stopsAmong_renderSource (site : Site) (signature : Signature) (options : Options)
    (context : Context) :
    StopsAmong renderingKinds (renderSource site signature options context) :=
  .bind (stopsAmong_render site signature options context) fun _ => stopsAmong_orUnprintable _

end EntryPoint
