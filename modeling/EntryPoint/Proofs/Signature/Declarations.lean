/-
# What a document declares

Each entry of a document declares one argument, by the call that its text spells or by
the default call on its name. A text is accepted only if it spells a call of a bare name,
and these are the calls that can be chained. So the builder of an accepted document can
be made, its chain holds the calls of all entries in order, and no render of it fails for
the sake of a chain.

## Main definitions

* `Declares` - what an entry declares.
* `renderOverriding` - a render with overrides for its options.
* `Declines` - why a render is declined.

## Main results

* `render_eq_of_links` - where all declarations are links, a render consists of its checks and
  of the module around its body.
* `builder_declares` - the chain of an accepted document, and why its render may be declined.
-/

import EntryPoint.Proofs.Module.Layout
import EntryPoint.Proofs.Signature.Entries
import EntryPoint.Proofs.Signature.Rejected
import EntryPoint.Proofs.Signature.ShortForms

namespace EntryPoint

open Document Syntax Text

variable {callee key name : String} {value : Value} {entry : Entry} {pairs document : Pairs}
  {directory : Option Path} {signature : Signature} {site : Site} {options : Options}
  {overrides : Overrides} {context : Context} {fault : Fault} {call : Call}

/-! ### Entries -/

/-- What an entry declares: the call that its text spells, or the default call on its name. -/
inductive Declares (callee : String) : Value → Link → Prop
  | bare (name : String) : Declares callee (.text name) ⟨callee, [textExpr name], []⟩
  | uncalled {pairs : Pairs} {name : String}
    (named : Value.lookup? "name" pairs = some (.text name))
    (silent : Value.lookupD "call" pairs = .null) :
    Declares callee (.mapping pairs) ⟨callee, [textExpr name], []⟩
  | called {pairs : Pairs} {name : String} {source : Value} {link : Link}
    (named : Value.lookup? "name" pairs = some (.text name))
    (given : Value.lookupD "call" pairs = source) (stated : source ≠ .null)
    (spelled : readExpression (String.ofList (trimBlanks source.plainText.toList)) =
      .ok link.toExpr) :
    Declares callee (.mapping pairs) link

/-- A text is accepted as a call only if it spells a link. -/
theorem parseCall_eq_ok {source : String} (accepted : parseCall source = .ok call) :
    ∃ link : Link, call.toExpr = link.toExpr ∧
      readExpression (String.ofList (trimBlanks source.toList)) = .ok link.toExpr := by
  unfold parseCall at accepted
  split at accepted
  · cases accepted
  · cases accepted
  · rename_i name args keywords read
    obtain rfl := Except.ok.inj accepted
    exact ⟨⟨name, args, keywords⟩, rfl, read⟩
  · cases accepted

/-- The call of an entry is what the entry declares. -/
theorem Entry.declares_of_call (found : entryOf? value = some entry)
    (accepted : entry.call callee = .ok call) :
    ∃ link : Link, call.toExpr = link.toExpr ∧ Declares callee value link := by
  cases value with
  | text name =>
    obtain rfl := Option.some.inj found
    obtain rfl := Except.ok.inj accepted
    exact ⟨_, rfl, .bare name⟩
  | mapping pairs =>
    rw [entryOf?] at found
    split at found
    · rename_i name named
      obtain rfl := Option.some.inj found
      unfold Entry.call at accepted
      split at accepted
      · rename_i silent
        obtain rfl := Except.ok.inj accepted
        exact ⟨_, rfl, .uncalled named silent⟩
      · rename_i stated
        obtain ⟨text, written, accepted⟩ := bind_eq_ok_iff.mp accepted
        obtain rfl := writtenText_eq_ok written
        obtain ⟨link, same, spelled⟩ := parseCall_eq_ok accepted
        exact ⟨link, same, .called named rfl stated spelled⟩
    · cases found
  | _ => cases found

/-- What is made of a list of entries, each with its call, are the links that they declare. -/
theorem exists_declared {α : Type} {make : Entry → Except Fault α} (callOf : α → Call)
    {made : List α}
    (called : ∀ entry result, make entry = .ok result → entry.call callee = .ok (callOf result))
    (accepted : (entries document key >>= List.mapM make) = .ok made) :
    ∃ links : List Link, made.map (fun result => (callOf result).toExpr) = links.map Link.toExpr ∧
      List.Forall₂ (Declares callee) (listedUnder key document) links := by
  rw [bind_eq_ok_iff] at accepted
  obtain ⟨listed, found, accepted⟩ := accepted
  -- The entries are generalized to any list in step with the values, since only then the hypothesis
  -- of the induction speaks of the rest.
  have values := entries_eq_ok found
  clear found
  generalize listedUnder key document = members at values ⊢
  induction values generalizing made with
  | nil =>
    obtain rfl := Except.ok.inj accepted
    exact ⟨[], rfl, .nil⟩
  | cons here _ ih =>
    rw [List.mapM_cons] at accepted
    obtain ⟨first, step, accepted⟩ := bind_eq_ok_iff.mp accepted
    obtain ⟨rest, behind, same⟩ := bind_eq_ok_iff.mp accepted
    obtain rfl := Except.ok.inj same
    obtain ⟨link, spelled, declares⟩ := Entry.declares_of_call here (called _ _ step)
    obtain ⟨links, further, others⟩ := ih behind
    refine ⟨link :: links, ?_, .cons declares others⟩
    rw [List.map_cons, List.map_cons, spelled, further]

theorem Entry.call_of_positional {positional : Positional}
    (accepted : entry.positional = .ok positional) :
    entry.call "positional" = .ok positional.call := by
  obtain ⟨call, found, same⟩ := bind_eq_ok_iff.mp accepted
  obtain rfl := Except.ok.inj same
  exact found

theorem Entry.call_of_option {option : Flag} (accepted : entry.option = .ok option) :
    entry.call "option" = .ok option.call := by
  obtain ⟨call, found, same⟩ := bind_eq_ok_iff.mp accepted
  obtain rfl := Except.ok.inj same
  exact found

/-! ### Renders -/

/-- A render, with overrides laid over the default options. -/
def renderOverriding (site : Site) (signature : Signature) (overrides : Overrides)
    (context : Context) : Except Fault (List Stmt) := do
  let options ← (Options.ofOverrides overrides).mapError .rejection
  render site signature options context

/-- Why a render is declined: overrides do not fit, a name does not, a positional may be left out,
or a module cannot be resolved. -/
inductive Declines (site : Site) (signature : Signature) (overrides : Overrides)
    (context : Context) : Fault → Prop
  | options {rejection : Rejection} (unfit : Options.ofOverrides overrides = .error rejection) :
    Declines site signature overrides context (.rejection rejection)
  | names {options : Options} {message : String}
    (merged : Options.ofOverrides overrides = .ok options)
    (unfit : checkModuleNames signature options = fail .invariant message ∨
      checkSignature signature = fail .invariant message) :
    Declines site signature overrides context (.failure { kind := .invariant, message })
  | optional {message : String} (first : signature.OptionalFirst)
    (unfit : checkSignature signature = fail .unsupported message) :
    Declines site signature overrides context (.failure { kind := .unsupported, message })
  | resolution {options : Options} {fault : Fault}
    (merged : Options.ofOverrides overrides = .ok options)
    (unresolved : moduleSource site signature context = .error fault ∨
      libraryImports site.modules options.lib options.lib context = .error fault) :
    Declines site signature overrides context fault

/-- Where all declarations are links, a render consists of its checks and of the module around its
body, which fail for the sake of no chain. -/
theorem render_eq_of_links {declared : List Link}
    (links : declarations signature = declared.map Link.toExpr) :
    render site signature options context = (do
      checkModuleNames signature options
      checkSignature signature
      wrap site signature options context (wrapperBody signature options declared)) := by
  have body : renderBody signature options = (do
      checkSignature signature
      .ok (wrapperBody signature options declared)) := by
    cases checked : checkSignature signature with
    | error fault =>
      rw [renderBody, chainCalls, command, checked]
      rfl
    | ok =>
      have accepted := checkSignature_eq_ok_iff.mp checked
      exact renderBody_eq_ok_iff.mpr ⟨accepted, declared, links, rfl⟩
  rw [render, body, bind_assoc]
  rfl

theorem decides_checkExports {reserved : List String} {reference : Path × Exports} :
    Decides [.invariant] (checkExports reserved reference) := by
  unfold checkExports
  split
  · exact .fail (.head _) _
  · exact .ok

theorem decides_checkModuleNames : Decides [.invariant] (checkModuleNames signature options) := by
  have exports (references : List (Path × Exports)) :
      Decides [.invariant] (references.forM (checkExports (moduleReserved options))) := by
    induction references with
    | nil => exact .ok
    | cons first rest ih => exact .bind decides_checkExports ih
  unfold checkModuleNames
  dsimp only
  split
  · exact .fail (.head _) _
  · exact exports _

/-- The module around a body is declined only where a module cannot be resolved. -/
theorem wrap_eq_error {body : List Stmt}
    (declined : wrap site signature options context body = .error fault) :
    moduleSource site signature context = .error fault ∨
      libraryImports site.modules options.lib options.lib context = .error fault := by
  unfold wrap at declined
  rcases bind_eq_error_iff.mp declined with source | ⟨_, -, declined⟩
  · exact .inl source
  exact .inr (bind_ok_eq_error_iff.mp declined)

theorem declines_of_links {declared : List Link}
    (links : declarations signature = declared.map Link.toExpr)
    (declined : renderOverriding site signature overrides context = .error fault) :
    Declines site signature overrides context fault := by
  unfold renderOverriding at declined
  cases merged : Options.ofOverrides overrides with
  | error rejection =>
    rw [merged] at declined
    obtain rfl := Except.error.inj declined
    exact .options merged
  | ok options =>
    rw [merged] at declined
    have declined : render site signature options context = .error fault := declined
    rw [render_eq_of_links links] at declined
    -- What is left are two checks, and the module around a body that is there already.
    rcases bind_eq_error_iff.mp declined with names | ⟨_, -, declined⟩
    · rcases decides_checkModuleNames.resolve_left (by rw [names]; rintro ⟨⟩) with
        ⟨kind, member, message, unfit⟩
      obtain rfl := List.mem_singleton.mp member
      obtain rfl := Except.error.inj (names.symm.trans unfit)
      exact .names merged (.inl unfit)
    rcases bind_eq_error_iff.mp declined with checked | ⟨_, -, declined⟩
    · rcases decides_checkSignature.resolve_left (by rw [checked]; rintro ⟨⟩) with
        ⟨kind, member, message, unfit⟩
      obtain rfl := Except.error.inj (checked.symm.trans unfit)
      simp only [List.mem_cons, List.not_mem_nil, or_false] at member
      rcases member with rfl | rfl
      · exact .names merged (.inr unfit)
      · exact .optional (unsupported_signature_iff.mp ⟨message, unfit⟩) unfit
    · exact .resolution merged (wrap_eq_error declined)

/-! ### Documents -/

/-- The builder of a document that is accepted can be made. Taken apart from the parser outward, its
chain consists of what the entries declare, one link for each: the positionals in order, then the
options in order. A render of the document is declined only for the sake of its options, its names,
a positional that may be left out, or a module that cannot be resolved. -/
theorem builder_declares (accepted : extract document directory = .ok signature) :
    (∃ chained positionals options,
      builder signature =
        .ok (functionOf builderName parserName [.returnValue (some chained)]) ∧
      chained.unchain = (.name parserName, positionals ++ options) ∧
      List.Forall₂ (Declares "positional") (listedUnder "positionals" document) positionals ∧
      List.Forall₂ (Declares "option") (listedUnder "options" document) options) ∧
    ∀ site overrides context fault,
      renderOverriding site signature overrides context = .error fault →
        Declines site signature overrides context fault := by
  -- The first part holds of the extracted signature alone; the second of every module it is
  -- rendered to.
  obtain ⟨-, positionals, options, -, -⟩ := extract_eq_ok_iff.mp accepted
  obtain ⟨first, spelled, declared⟩ :=
    exists_declared Positional.call (fun _ _ => Entry.call_of_positional) positionals
  obtain ⟨second, spelled', declared'⟩ :=
    exists_declared Flag.call (fun _ _ => Entry.call_of_option) options
  have links : declarations signature = (first ++ second).map Link.toExpr := by
    rw [declarations, spelled, spelled', List.map_append]
  refine ⟨⟨_, first, second, ?_, Expr.unchain_extend_name _ _, declared, declared'⟩, ?_⟩
  · rw [builder, links, chain_links]
    rfl
  · intro site overrides context fault declined
    exact declines_of_links links declined

/-- A document with a call that is spelled out, and with a default one. -/
def shouting : Pairs :=
  [(.text "name", .text "shout"),
    (.text "positionals", .list [.text "who"]),
    (.text "options", .list [.mapping
      [(.text "name", .text "loud"), (.text "call", .text (defaultText "positional" "loud"))]])]

/-- The signature that it describes. -/
def shoutingSignature : Signature where
  name := "shout"
  description := textExpr ""
  positionals := [{ name := "who", call := defaultCall "positional" "who", required := true }]
  options := [{ name := "loud", call := defaultCall "positional" "loud" }]

theorem extract_shouting : extract shouting none = .ok shoutingSignature := by
  have call : Entry.call "option" ⟨"loud",
      [(.text "name", .text "loud"), (.text "call", .text (defaultText "positional" "loud"))]⟩ =
      .ok (defaultCall "positional" "loud") :=
    bind_eq_ok_iff.mpr ⟨_, rfl, parseCall_defaultText (by decide) "loud"⟩
  refine extract_eq_ok_iff.mpr ⟨rfl, rfl, ?_, rfl, rfl⟩
  refine bind_eq_ok_iff.mpr ⟨_, rfl, mapM_eq_ok_iff_forall₂.mpr (.cons ?_ .nil)⟩
  rw [Entry.option, call]
  rfl

theorem builder_declares_shouting : extract shouting none = .ok shoutingSignature ∧
    ∃ chained positional option,
      builder shoutingSignature =
        .ok (functionOf builderName parserName [.returnValue (some chained)]) ∧
      chained.unchain = (.name parserName, [positional, option]) ∧
      Declares "positional" (.text "who") positional ∧
      Declares "option" (.mapping
        [(.text "name", .text "loud"), (.text "call", .text (defaultText "positional" "loud"))])
        option := by
  refine ⟨extract_shouting, ?_⟩
  obtain ⟨⟨chained, positionals, options, built, links, declared, declared'⟩, -⟩ :=
    builder_declares extract_shouting
  cases declared with
  | cons first none =>
    cases none
    cases declared' with
    | cons second none =>
      cases none
      exact ⟨chained, _, _, built, links, first, second⟩

/-- A document with a positional that may be left out. -/
def undemanding : Pairs :=
  [(.text "name", .text "shout"),
    (.text "positionals", .list [.mapping
      [(.text "name", .text "who"), (.text "required", .truth false)]])]

/-- The document is accepted, all names fit, all modules can be resolved, and its render is declined
all the same. -/
theorem undemanding_declined : ∃ signature,
    extract undemanding none = .ok signature ∧
    renderOverriding besideFile signature [] {} =
      fail .unsupported "Positional 'who' is optional; optional positionals are not supported" ∧
    Options.ofOverrides [] = .ok {} ∧
    checkModuleNames signature {} = .ok () ∧
    checkSignature { signature with
      positionals := signature.positionals.map ({ · with required := true }) } = .ok () ∧
    (∃ source, moduleSource besideFile signature {} = .ok source) ∧
    ∃ imports, libraryImports besideFile.modules "yargs" "yargs" {} = .ok imports :=
  ⟨_, rfl, rfl, rfl, rfl, rfl, ⟨_, rfl⟩, ⟨_, rfl⟩⟩

end EntryPoint
