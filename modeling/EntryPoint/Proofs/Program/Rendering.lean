/-
# Renders that write all or nothing

A render prints or writes its module in one step, after everything else. So a run
that does not end well has printed nothing, and the only file that it may have
changed is the log of a crash. A run that ends well has written one file, or
printed the text that it would have written.

## Main definitions

* `World.defaultOutput` - the place of a module that is to be printed.

## Main results

* `outcome_renderTask_cases` - what the task comes to.
* `render_allOrNothing` - what a run comes to that renders.
-/

import EntryPoint.Proofs.Arguments.Manner
import EntryPoint.Proofs.Document.Json.RoundTrip
import EntryPoint.Proofs.Options.Names
import EntryPoint.Proofs.Program.Ending
import EntryPoint.Proofs.Program.Preparation
import EntryPoint.Proofs.Text.Identifier

namespace EntryPoint

open Document Session

variable {world ready after : World} {console : Console} {request : RenderRequest}
  {rendering : Rendering} {fault : Fault}

/-! ### Places -/

/-- The place of a module that is to be printed: a file of the entry point's name in the current
directory. -/
def World.defaultOutput (world : World) (options : Options) : List String :=
  world.directory ++ [options.functionName ++ ".py"]

/-- The name of the entry point is that of a file. -/
theorem isPart_functionName {options : Options} (names : options.NamesBindable) :
    Path.IsPart (options.functionName ++ ".py") where
  slashless := by
    rw [String.toList_append, List.mem_append, not_or]
    exact ⟨Text.notMem_identifier (Text.isIdentifier_of_isBindable names.functionName) (by decide)
      (by decide), by decide⟩
  proper := by
    have longer : 2 < (options.functionName ++ ".py").length := by
      rw [String.length_append]
      change 2 < options.functionName.length + 3
      omega
    refine ⟨?_, ?_, ?_⟩
    all_goals
      intro same
      rw [same] at longer
      revert longer
      decide

/-- The options of a run have names that can be bound. -/
theorem namesBindable_of_outcome_resolveOptions {overrides : Overrides} {options : Options}
    (resolved : (outcome (resolveOptions overrides) world).1 = .ok options) :
    options.NamesBindable := by
  rcases found : outcome (resolveOptions overrides) world with ⟨ended, after⟩
  obtain rfl : ended = .ok options := by rwa [found] at resolved
  -- Whatever the layers hold, what they come to has been checked in the end.
  have bindable {overrides : Overrides} {world : World}
      (read : outcome (orStop (optionsOf overrides)) world = (.ok options, after)) :
      options.NamesBindable := by
    rw [outcome_orStop] at read
    unfold optionsOf at read
    split at read
    · rename_i merged
      cases read
      exact Options.namesBindable_of_merge merged
    · cases read
  obtain ⟨stored, _, -, found⟩ := exists_of_outcome_bind_eq_ok found
  obtain ⟨document, _, -, found⟩ := exists_of_outcome_bind_eq_ok found
  cases document with
  | none =>
    obtain ⟨project, _, -, found⟩ := exists_of_outcome_bind_eq_ok found
    obtain ⟨environment, _, -, found⟩ := exists_of_outcome_bind_eq_ok found
    exact bindable found
  | some document =>
    obtain ⟨project, _, -, found⟩ := exists_of_outcome_bind_eq_ok found
    obtain ⟨environment, _, -, found⟩ := exists_of_outcome_bind_eq_ok found
    exact bindable found

section Directory

variable (parts : ∀ name ∈ world.directory, Path.IsPart name)
include parts

theorem parts_defaultOutput {options : Options} (names : options.NamesBindable) :
    ∀ name ∈ world.defaultOutput options, Path.IsPart name := by
  intro name member
  rcases List.mem_append.mp member with member | member
  · exact parts name member
  · exact List.mem_singleton.mp member ▸ isPart_functionName names

/-- A module that is to be printed belongs to a place that can be asked for as well. -/
theorem place_defaultOutput {options : Options} (names : options.NamesBindable)
    (printed : request.output = none) :
    { request with output := some (Path.ofNames (world.defaultOutput options)).text }.place
        world.directory options = request.place world.directory options := by
  have parts := parts_defaultOutput parts names
  have plain := Path.isPlain_of_parts parts
  have here : (Path.ofString (options.functionName ++ ".py")).resolve world.directory =
      world.defaultOutput options := by
    rw [(isPart_functionName names).ofString_eq]
    exact Path.normalize_of_plain plain
  have there : (Path.ofNames (world.defaultOutput options)).resolve world.directory =
      world.defaultOutput options := Path.resolve_of_isAbsolute rfl plain world.directory
  unfold RenderRequest.place
  rw [printed]
  dsimp only [Option.getD]
  rw [Path.ofString_text parts, there, here]

end Directory

/-! ### The task -/

/-- Tells what was written, and how to use it. -/
def announce (console : Console) (rendering : Rendering) : Session Unit := do
  report console .success ("Wrote " ++ rendering.target.text)
  if !invokes rendering.options rendering.context then
    report console .suggestion
      ("Import " ++ rendering.options.functionName ++ " from it, or re-run with --runnable")

/-- Prints what was rendered, or writes it where the request says so. -/
def publish (console : Console) (request : RenderRequest) (rendering : Rendering) :
    Session Unit :=
  if request.output.isNone then Host.write .output (console.codeText rendering.source)
  else do
    replaceFile rendering.target rendering.source
    announce console rendering

theorem renderTask_eq (console : Console) (request : RenderRequest) :
    (renderTask console request : Session Unit) =
      prepare console request >>= publish console request := rfl

theorem exists_outcome_announce (colorless : console.usesColor = false) (rendering : Rendering)
    (world : World) : ∃ diagnostics, outcome (announce console rendering) world =
      (.ok (), { world with diagnostics }) := by
  obtain ⟨diagnostics, reported⟩ := exists_outcome_report world colorless .success
    ("Wrote " ++ rendering.target.text)
  unfold announce
  rw [outcome_bind_of_ok reported]
  split
  · obtain ⟨further, suggested⟩ := exists_outcome_report { world with diagnostics } colorless
      .suggestion
      ("Import " ++ rendering.options.functionName ++ " from it, or re-run with --runnable")
    exact ⟨further, suggested⟩
  · exact ⟨diagnostics, rfl⟩

theorem outcome_publish_of_none (printed : request.output = none)
    (verbatim : ∀ source, console.codeText source = source) :
    outcome (publish console request rendering) world =
      (.ok (), { world with output := world.output ++ rendering.source }) := by
  unfold publish
  rw [printed, verbatim]
  rfl

/-- What was rendered is written to its place, or not at all. -/
theorem allOrNothing_publish {names : List String} (parts : ∀ name ∈ names, Path.IsPart name)
    (target : rendering.target = .ofNames names) (colorless : console.usesColor = false)
    (written : request.output.isNone = false) (world : World) :
    world.AllOrNothing names (Text.utf8Bytes rendering.source)
      (outcome (publish console request rendering) world) := by
  have either := allOrNothing_replaceFile (Path.slash_notMem_name parts) rendering.source world
  rw [Path.destination_ofNames (Path.isPlain_of_parts parts)] at either
  unfold publish
  rw [written, target]
  change world.AllOrNothing names _ (outcome (replaceFile (.ofNames names) rendering.source >>=
    fun _ => announce console rendering) world)
  rcases wrote : outcome (replaceFile (.ofNames names) rendering.source) world with
    ⟨fault | value, done⟩
  · rw [wrote] at either
    rwa [outcome_bind_of_error wrote]
  · rw [wrote] at either
    cases either with
    | all _ written =>
      -- Only what is announced follows the write, and without colour that cannot be stopped.
      obtain ⟨diagnostics, announced⟩ := exists_outcome_announce colorless rendering done
      rw [outcome_bind_of_ok wrote, announced]
      exact .all () (written.grown (.report done diagnostics))

/-- The task is fulfilled: its module was printed, or it was written to the place that was asked
for. -/
def RenderRequest.Fulfilled (request : RenderRequest) (source : String) (before after : World) :
    Prop :=
  match request.output with
  | none => before.tree.Grown after.tree ∧ after.output = before.output ++ source
  | some path =>
    before.tree.Written after.tree ((Path.ofString path).resolve before.directory)
      (Text.utf8Bytes source) ∧ after.output = before.output

/-- The task is fulfilled with what was prepared, or it is stopped before it prints or writes. -/
theorem outcome_renderTask_cases (parts : ∀ name ∈ world.directory, Path.IsPart name)
    (colorless : console.usesColor = false) (verbatim : ∀ source, console.codeText source = source)
    (request : RenderRequest) :
    (∃ fault stopped, outcome (renderTask console request) world = (.error fault, stopped) ∧
      fault.Among renderKinds ∧ world.Grown stopped) ∨
    ∃ rendering done, (outcome (prepare console request) world).1 = .ok rendering ∧
      outcome (renderTask console request) world = (.ok (), done) ∧
      request.Fulfilled rendering.source world done := by
  have prepares := prepares_prepare console request
  rw [renderTask_eq]
  rcases found : outcome (prepare console request) world with ⟨fault | rendering, ready⟩
  · exact .inl ⟨fault, ready, outcome_bind_of_error found, prepares.among_of_outcome found,
      prepares.grown_of_outcome found⟩
  have grown := prepares.grown_of_outcome found
  rw [outcome_bind_of_ok found]
  unfold RenderRequest.Fulfilled
  cases asked : request.output with
  | none =>
    exact .inr ⟨rendering, _, rfl, outcome_publish_of_none asked verbatim, grown.tree,
      by rw [grown.output_eq]⟩
  | some path =>
    have target : rendering.target = .ofNames ((Path.ofString path).resolve world.directory) := by
      rw [(prepared_of_outcome_prepare found).target, RenderRequest.place, asked]
      rfl
    have either := allOrNothing_publish (fun _ => Path.isPart_of_mem_resolve parts) target colorless
      (by rw [asked]; rfl) ready
    rcases published : outcome (publish console request rendering) ready with ⟨fault | _, done⟩
    · rw [published] at either
      cases either with
      | nothing among further =>
        exact .inl ⟨fault, done, rfl, among.mono (by simp), grown.trans further⟩
    · rw [published] at either
      cases either with
      | all _ written =>
        have written := grown.written written
        exact .inr ⟨rendering, done, rfl, rfl, written.tree, written.output_eq⟩

/-! ### Runs -/

theorem outcome_attempt_of_render {arguments : List String} {manner : Manner}
    (asked : Request.ofArguments arguments = .task manner (.render request)) (world : World) :
    outcome (attempt arguments) world =
      match outcome (renderTask (world.console arguments) request) world with
      | (.ok _, done) => (.ok 0, done)
      | (.error fault, stopped) => (.error fault, stopped) := by
  rw [console_eq_of_task asked]
  unfold attempt
  rw [asked]
  change outcome (openConsole manner.console >>= fun console =>
    renderTask console request >>= fun _ => pure 0) world = _
  rw [outcome_bind_of_ok (outcome_openConsole manner.console), outcome_bind]
  rcases outcome (renderTask (.ofFlags manner.console world.surroundings) request) world with
    ⟨fault | _, after⟩ <;> rfl

theorem codeText_console {arguments : List String} {manner : Manner} {task : Task}
    (asked : Request.ofArguments arguments = .task manner task)
    (colorless : (world.console arguments).usesColor = false) (source : String) :
    (world.console arguments).codeText source = source := by
  rw [console_eq_of_task asked] at colorless ⊢
  exact codeText_of_colorless asked colorless source

/-- What is prepared can be printed. -/
theorem exists_outcome_run_of_prepared {arguments : List String} {manner : Manner}
    (asked : Request.ofArguments arguments = .task manner (.render request))
    (colorless : (world.console arguments).usesColor = false) (printed : request.output = none)
    (prepared : (outcome (prepare (world.console arguments) request) world).1 = .ok rendering) :
    ∃ done, outcome (run arguments) world = (.ok 0, done) := by
  rcases found : outcome (prepare (world.console arguments) request) world with ⟨ended, ready⟩
  obtain rfl : ended = .ok rendering := by rwa [found] at prepared
  rw [outcome_run, outcome_attempt_of_render asked, renderTask_eq, outcome_bind_of_ok found,
    outcome_publish_of_none printed (codeText_console asked colorless)]
  exact ⟨_, rfl⟩

/-- A run that asks for a render ends well and has fulfilled it, or it has spared the world. -/
theorem outcome_run_render_cases {arguments : List String} {manner : Manner}
    (parts : ∀ name ∈ world.directory, Path.IsPart name)
    (asked : Request.ofArguments arguments = .task manner (.render request))
    (colorless : (world.console arguments).usesColor = false) :
    ((outcome (run arguments) world).1 ≠ .ok 0 ∧ world.Spared (outcome (run arguments) world).2) ∨
    ∃ rendering done, outcome (run arguments) world = (.ok 0, done) ∧
      (outcome (prepare (world.console arguments) request) world).1 = .ok rendering ∧
      request.Fulfilled rendering.source world done := by
  rw [outcome_run, outcome_attempt_of_render asked]
  obtain ⟨fault, stopped, failed, among, grown⟩ |
    ⟨rendering, done, prepared, succeeded, fulfilled⟩ :=
    outcome_renderTask_cases parts colorless (codeText_console asked colorless) request
  · rw [failed]
    exact .inl (spared_of_stopped (world.console arguments) among grown)
  · rw [succeeded]
    exact .inr ⟨rendering, done, rfl, prepared, fulfilled⟩

/-- A run that ends well and prints has printed what it would have written to the place of the
module. -/
theorem written_of_printed {arguments others : List String} {manner : Manner}
    (parts : ∀ name ∈ world.directory, Path.IsPart name)
    (asked : Request.ofArguments arguments = .task manner (.render request))
    (colorless : (world.console arguments).usesColor = false) (printed : request.output = none)
    (prepared : (outcome (prepare (world.console arguments) request) world).1 = .ok rendering)
    (likewise : Request.ofArguments others = .task manner (.render { request with
      output := some (Path.ofNames (world.defaultOutput rendering.options)).text }))
    (succeeded : outcome (run others) world = (.ok 0, after)) :
    world.tree.Written after.tree (world.defaultOutput rendering.options)
      (Text.utf8Bytes rendering.source) := by
  have same : world.console others = world.console arguments := by
    rw [console_eq_of_task asked, console_eq_of_task likewise]
  rcases found : outcome (prepare (world.console arguments) request) world with ⟨ended, ready⟩
  obtain rfl : ended = .ok rendering := by rwa [found] at prepared
  have resolved := (prepared_of_outcome_prepare found).options
  have names := namesBindable_of_outcome_resolveOptions resolved
  -- Both places are the same, so that both runs prepare the same text.
  have twin : outcome (prepare (world.console arguments) { request with
        output := some (Path.ofNames (world.defaultOutput rendering.options)).text }) world =
      outcome (prepare (world.console arguments) request) world :=
    outcome_prepare_congr fun options found => by
      cases resolved.symm.trans found
      exact place_defaultOutput parts names printed
  obtain ⟨stopped, -⟩ | ⟨other, done, ended, alike, fulfilled⟩ :=
    outcome_run_render_cases parts likewise (same ▸ colorless)
  · rw [succeeded] at stopped
    exact absurd rfl stopped
  · rw [same, twin, found] at alike
    cases alike
    cases succeeded.symm.trans ended
    have written := fulfilled.1
    rw [Path.ofString_text (parts_defaultOutput parts names), Path.resolve_of_isAbsolute rfl
      (Path.isPlain_of_parts (parts_defaultOutput parts names))] at written
    exact written

/-- A run that asks for a render and does not end well prints nothing and leaves all files as they
were, but for the log of a crash. One that ends well has written the text of the module to the place
that was asked for and changed no other file, or has printed the text, which is the one that is
written where the arguments ask to write it to the place of the module. -/
theorem render_allOrNothing (arguments : List String) (world : World)
    (parts : ∀ name ∈ world.directory, Path.IsPart name) :
    match Request.ofArguments arguments with
    | .task manner (.render request) => (world.console arguments).usesColor = false →
      ((outcome (run arguments) world).1 ≠ .ok 0 → world.Spared (outcome (run arguments) world).2) ∧
      ∀ done, outcome (run arguments) world = (.ok 0, done) →
        ∃ rendering, Prepared world request rendering ∧
          request.Fulfilled rendering.source world done ∧
          (request.output = none → ∀ others after,
            Request.ofArguments others = .task manner (.render { request with
              output := some (Path.ofNames (world.defaultOutput rendering.options)).text }) →
            outcome (run others) world = (.ok 0, after) →
            world.tree.Written after.tree (world.defaultOutput rendering.options)
              (Text.utf8Bytes rendering.source))
    | .misuse .render => ∃ diagnostics, outcome (run arguments) world =
        (.ok FailureKind.usage.exitCode, { world with diagnostics })
    | _ => True := by
  cases asked : Request.ofArguments arguments with
  | help page code => trivial
  | version => trivial
  | misuse page =>
    cases page with
    | render =>
      refine ⟨world.diagnostics ++ (HelpPage.render.usage ++ "\n"), ?_⟩
      unfold run
      rw [asked]
      rfl
    | _ => trivial
  | task manner task =>
    cases task with
    | render request =>
      intro colorless
      obtain ⟨stopped, spared⟩ | ⟨rendering, done, ended, prepared, fulfilled⟩ :=
        outcome_run_render_cases parts asked colorless
      · exact ⟨fun _ => spared, fun done ended => absurd (congrArg Prod.fst ended) stopped⟩
      · refine ⟨fun stopped => absurd (congrArg Prod.fst ended) stopped, fun other ended' => ?_⟩
        cases ended.symm.trans ended'
        rcases found : outcome (prepare (world.console arguments) request) world with
          ⟨result, ready⟩
        obtain rfl : result = .ok rendering := by rwa [found] at prepared
        exact ⟨rendering, prepared_of_outcome_prepare found, fulfilled, fun printed others after =>
          written_of_printed parts asked colorless printed prepared⟩
    | _ => trivial

/-- A system without colour, with a signature document on the standard input. -/
def greetSystem : World where
  tree := ⟨[(["c"], .directory), (["c", "clisynth"], .directory)]⟩
  environment := [("XDG_CONFIG_HOME", "/c"), ("NO_COLOR", "1")]
  system := "Linux"
  input := .ok "\x7b\"name\": \"greet\"\x7d"

/-- The document is read as it is. -/
theorem readDocument_greet : readDocument "\x7b\"name\": \"greet\"\x7d" none =
    .ok [(.text "name", .text "greet")] := by
  -- The text is one that the writer writes, so that the reader need not be evaluated on it.
  have back : ReadsBack {} 0 (.mapping (pairsOf [("name", .text "greet")])) :=
    .mapping (List.forall_mem_singleton.mpr (.text 1 "greet")) (by decide)
  have written : "\x7b\"name\": \"greet\"\x7d" =
      writeJson {} (.mapping (pairsOf [("name", .text "greet")])) ++ "" := by decide +kernel
  have read : readJson (writeJson {} (.mapping (pairsOf [("name", .text "greet")])) ++ "") =
      .ok (.mapping (pairsOf [("name", .text "greet")])) :=
    readJson_writeJson back nofun
  rw [written, readDocument, read]
  rfl

/-- A render of the document succeeds in being prepared. -/
theorem exists_outcome_prepare_greet {console : Console} (silent : console.isVerbose = false) :
    ∃ rendering, (outcome (prepare console { signature := "-" }) greetSystem).1 =
      .ok rendering := by
  have resolved : outcome (resolveOptions []) greetSystem = (.ok {}, greetSystem) := by rfl
  have read : outcome readStandardInput greetSystem =
      (.ok "\x7b\"name\": \"greet\"\x7d", { greetSystem with input := .ok "" }) := by
    have taken : outcome (Host.readInput : Session (Except String String)) greetSystem =
        (.ok greetSystem.input, { greetSystem with input := .ok "" }) := rfl
    have worded : ¬Text.isAllBlank "\x7b\"name\": \"greet\"\x7d".toList := by decide
    unfold readStandardInput
    rw [outcome_bind_of_ok taken]
    change outcome (if _ then _ else _) _ = _
    rw [if_neg worded]
    rfl
  have loaded : outcome (loadSignature "-") greetSystem =
      (.ok [(.text "name", .text "greet")], { greetSystem with input := .ok "" }) := by
    have opens : (loadSignature "-" : Session _) =
        readStandardInput >>= fun content => orStop (readDocument content none) := rfl
    rw [opens, outcome_bind_of_ok read, readDocument_greet]
    rfl
  obtain ⟨signature, extracted, renders⟩ : ∃ signature,
      extract [(.text "name", .text "greet")] none = .ok signature ∧
        (renderSource ⟨[], ⟨"/", []⟩, .ofNames ["cli.py"], []⟩ signature {} {}).isOk :=
    ⟨_, rfl, by decide +kernel⟩
  have found : outcome (findSignature { signature := "-" }) greetSystem =
      (.ok ({}, signature), { greetSystem with input := .ok "" }) := by
    have based : (referenceBase "-" : Session _) = pure none := rfl
    unfold findSignature
    rw [outcome_bind_of_ok resolved, outcome_bind_of_ok loaded, based, pure_bind, extracted]
    rfl
  have modules : outcome (modulesNamed "yargs") { greetSystem with input := .ok "" } =
      (.ok ⟨"/", []⟩, { greetSystem with input := .ok "" }) := by rfl
  have traced (message : String) : outcome (report console .trace message)
      { greetSystem with input := .ok "" } = (.ok (), { greetSystem with input := .ok "" }) := by
    rw [outcome_report, Console.diagnostic, Console.shows, silent]
    rfl
  cases rendered : renderSource ⟨[], ⟨"/", []⟩, .ofNames ["cli.py"], []⟩ signature {} {} with
  | error fault =>
    rw [rendered] at renders
    cases renders
  | ok source =>
    have composed : outcome (compose console { signature := "-" } {} signature
        (.ofNames ["cli.py"]) []) { greetSystem with input := .ok "" } =
        (.ok ⟨source, .ofNames ["cli.py"], {}, {}⟩, { greetSystem with input := .ok "" }) := by
      unfold compose
      rw [outcome_bind_of_ok (traced _), outcome_bind_of_ok outcome_directory,
        outcome_bind_of_ok modules]
      change outcome (orStop (renderSource ⟨[], ⟨"/", []⟩, .ofNames ["cli.py"], []⟩ signature {} {})
        >>= _) _ = _
      rw [rendered]
      rfl
    have place : RenderRequest.place { signature := "-" } [] {} = .ofNames ["cli.py"] := by decide
    have targeted : outcome (targetPath { signature := "-" } {})
        { greetSystem with input := .ok "" } =
        (.ok (.ofNames ["cli.py"]), { greetSystem with input := .ok "" }) := by
      rw [outcome_targetPath, ← place]
      rfl
    have apart : ¬RenderRequest.SharesInput { signature := "-" } := by decide
    refine ⟨⟨source, .ofNames ["cli.py"], {}, {}⟩, ?_⟩
    rw [prepare_eq, if_neg apart, prepareApart, outcome_bind_of_ok found]
    dsimp only
    rw [outcome_bind_of_ok targeted]
    exact congrArg Prod.fst composed

/-- The text of the module is printed, and no file is written. -/
theorem render_allOrNothing_greet : (∀ name ∈ greetSystem.directory, Path.IsPart name) ∧
    ∃ rendering done, outcome (run ["render", "-"]) greetSystem = (.ok 0, done) ∧
      Prepared greetSystem { signature := "-" } rendering ∧ done.output = rendering.source ∧
      greetSystem.tree.Grown done.tree := by
  have parts : ∀ name ∈ greetSystem.directory, Path.IsPart name := nofun
  have asked : Request.ofArguments ["render", "-"] =
      .task {} (.render { signature := "-" }) := by rfl
  have colorless : (greetSystem.console ["render", "-"]).usesColor = false := by decide
  have silent : (greetSystem.console ["render", "-"]).isVerbose = false := by decide
  obtain ⟨rendering, prepared⟩ := exists_outcome_prepare_greet silent
  refine ⟨parts, ?_⟩
  have law := render_allOrNothing ["render", "-"] greetSystem parts
  simp only [asked] at law
  obtain ⟨done, ended⟩ := exists_outcome_run_of_prepared asked colorless rfl prepared
  obtain ⟨rendering, prepared, ⟨grown, printed⟩, -⟩ := (law colorless).2 done ended
  exact ⟨rendering, done, ended, prepared, printed, grown⟩

/-- A system without colour on which a run has crashed at the present moment: where the directory of
the settings should be, a file is. -/
def crashedBefore : World where
  tree := ⟨[(["s"], .file []), (["d"], .directory), (["d", "clisynth"], .directory),
    (["d", "clisynth", "logs"], .directory),
    (["d", "clisynth", "logs", "crash-now.log"], .file [0x3f])]⟩
  environment := [("XDG_CONFIG_HOME", "/s"), ("XDG_DATA_HOME", "/d"), ("NO_COLOR", "1")]
  system := "Linux"
  moment := "now"

/-- A run that crashes at the same moment as one before it writes over the log of that one. -/
theorem run_replaces_log :
    (crashedBefore.console ["render", "x"]).usesColor = false ∧
      (outcome (run ["render", "x"]) crashedBefore).1 = .ok 1 ∧
      crashedBefore.tree.item? ["d", "clisynth", "logs", "crash-now.log"] = some (.file [0x3f]) ∧
      (outcome (run ["render", "x"]) crashedBefore).2.tree.item?
        ["d", "clisynth", "logs", "crash-now.log"] ≠ some (.file [0x3f]) := by
  have colorless : (crashedBefore.console ["render", "x"]).usesColor = false := by decide
  have attempted : outcome (attempt ["render", "x"]) crashedBefore =
      (.error (.unforeseen .notDirectory), crashedBefore) := by rfl
  have dataPath : crashedBefore.dataPath = .ofNames ["d", "clisynth"] := by decide
  have logPath : crashedBefore.logDirectory = .ofNames ["d", "clisynth", "logs"] := by decide
  have place : crashedBefore.crashLogPlace = ["d", "clisynth", "logs", "crash-now.log"] := by
    decide
  have data : crashedBefore.IsDirectory crashedBefore.dataPath ["d", "clisynth"] :=
    ⟨by rw [dataPath]; decide, by decide⟩
  have logs : crashedBefore.IsDirectory crashedBefore.logDirectory ["d", "clisynth", "logs"] :=
    ⟨by rw [logPath]; decide, by decide⟩
  have can : crashedBefore.CanLog :=
    World.canLog_of_isDirectory data logs ⟨by decide, by decide, by decide⟩ (by decide)
  -- What concludes the run is not evaluated either: the law of logs gives the one it leaves.
  have unknown (failure : Failure) : Fault.unforeseen .notDirectory ≠ .failure failure :=
    fun same => by cases same
  obtain ⟨logged, written, concluded⟩ :=
    can.exists_outcome_conclude (crashedBefore.console ["render", "x"]) unknown
  obtain ⟨text, reported⟩ := Console.reports_of_colorless colorless crashedBefore.crashNote
  have ended : outcome (run ["render", "x"]) crashedBefore =
      (.ok 1, { logged with diagnostics := logged.diagnostics ++ text }) := by
    rw [outcome_run, attempted]
    dsimp only
    rw [concluded, reported]
  have holds := written.tree.holds
  rw [place] at holds
  rw [ended]
  refine ⟨colorless, rfl, by decide, ?_⟩
  dsimp only
  rw [holds]
  decide +kernel

end EntryPoint
