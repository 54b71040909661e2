/-
# How runs end

Whatever stops the task of a run is reported, and the run ends with the exit code
of the failure, or with the general one once a fault that is not foreseen has been
logged. Reporting can be stopped itself: with colour a message is read as markup,
which some messages are not, and the log may have no place. The run then ends
without an exit code of its own.

## Main definitions

* `attempt` - the program without the handler of faults.
* `World.console` - the console of a run.
* `World.Spared` - nothing was printed, and no file has changed but the log of a crash.

## Main results

* `outcome_run` - a run by its attempt and what concludes it.
* `spared_of_stopped` - what a run comes to that is stopped.
* `run_ending` - how runs end, and what they log.
-/

import EntryPoint.Program
import EntryPoint.Proofs.Program.Report

namespace EntryPoint

open Session

variable {world ready after : World} {fault : Fault}

/-! ### Attempts -/

/-- The flags of the console of a request. -/
def Request.flags : Request → ConsoleFlags
  | .task manner _ => manner.console
  | _ => {}

/-- The console of a run. -/
def World.console (world : World) (arguments : List String) : Console :=
  .ofFlags (Request.ofArguments arguments).flags world.surroundings

theorem console_eq_of_task {arguments : List String} {manner : Manner} {task : Task}
    (asked : Request.ofArguments arguments = .task manner task) (world : World) :
    world.console arguments = .ofFlags manner.console world.surroundings := by
  rw [World.console, asked]
  rfl

/-- The program without the handler of faults around its task. -/
def attempt (arguments : List String) : Session Int :=
  match Request.ofArguments arguments with
  | .task manner task => do perform (← openConsole manner.console) manner task
  | request => fulfil request

/-- A run is an attempt, and what concludes it where it is stopped. -/
theorem outcome_run (arguments : List String) (world : World) :
    outcome (run arguments) world =
      match outcome (attempt arguments) world with
      | (.ok code, done) => (.ok code, done)
      | (.error fault, stopped) => outcome (conclude (world.console arguments) fault) stopped := by
  unfold run attempt World.console
  cases Request.ofArguments arguments with
  | help page code => rfl
  | version => rfl
  | misuse page => rfl
  | task manner task =>
    -- Opening the console changes nothing, so that it can as well be opened by the attempt.
    have opened : outcome (openConsole manner.console) world =
        (.ok (.ofFlags manner.console world.surroundings), world) :=
      outcome_openConsole manner.console
    change outcome (openConsole manner.console >>= _) world = _
    dsimp only
    rw [outcome_bind_of_ok opened, outcome_bind_of_ok opened, outcome_tryCatch]
    rcases outcome (perform (.ofFlags manner.console world.surroundings) manner task) world with
      ⟨fault | code, after⟩ <;> rfl

/-! ### Conclusions -/

/-- The note that a fault was logged. -/
def World.crashNote (world : World) : String :=
  "Unexpected error. Debug log: " ++ world.crashLog.text

/-- A failure is reported, and nothing is logged. -/
theorem outcome_conclude_failure (console : Console) (failure : Failure) :
    outcome (conclude console (.failure failure)) world =
      match console.diagnostic .error failure.message with
      | .ok text => (.ok failure.exitCode, { world with diagnostics := world.diagnostics ++ text })
      | .error fault => (.error fault, world) :=
  outcome_report_bind_pure console .error failure.message failure.exitCode

/-- A fault that is not a failure is logged before it is reported. -/
theorem conclude_eq (console : Console) (unknown : ∀ failure, fault ≠ .failure failure) :
    (conclude console fault : Session Int) = do
      let log ← writeCrashLog fault
      report console .error ("Unexpected error. Debug log: " ++ log.text)
      return FailureKind.general.exitCode := by
  cases fault with
  | failure failure => exact absurd rfl (unknown failure)
  | rejection rejection => rfl
  | unforeseen kind => rfl

/-- What becomes of a fault that is not a failure. -/
theorem World.CanLog.exists_outcome_conclude (can : world.CanLog) (console : Console)
    (unknown : ∀ failure, fault ≠ .failure failure) :
    ∃ logged, world.Written logged world.crashLogPlace fault.logged ∧
      outcome (conclude console fault) world =
        match console.diagnostic .error world.crashNote with
        | .ok text => (.ok 1, { logged with diagnostics := logged.diagnostics ++ text })
        | .error fault => (.error fault, logged) := by
  obtain ⟨logged, wrote, written⟩ := can.exists_outcome_writeCrashLog fault
  refine ⟨logged, written, ?_⟩
  rw [conclude_eq console unknown, outcome_bind_of_ok wrote]
  exact outcome_report_bind_pure console .error world.crashNote _

/-- Where it cannot be logged it is not reported either. -/
theorem exists_outcome_conclude_of_not_canLog (cannot : ¬world.CanLog) (console : Console)
    (unknown : ∀ failure, fault ≠ .failure failure) :
    ∃ other unlogged, outcome (conclude console fault) world = (.error other, unlogged) ∧
      world.Grown unlogged := by
  obtain ⟨other, unlogged, failed, -, grown⟩ :=
    exists_outcome_writeCrashLog_of_not_canLog cannot fault
  exact ⟨other, unlogged, by rw [conclude_eq console unknown, outcome_bind_of_error failed], grown⟩

/-- A fault that is not a failure leaves one log if it can be written, and ends with the general
exit code if and only if the log can be reported as well. -/
theorem ending_of_unknown (console : Console) (unknown : ∀ failure, fault ≠ .failure failure) :
    (world.CanLog →
        world.Written (outcome (conclude console fault) world).2 world.crashLogPlace fault.logged) ∧
      (¬world.CanLog → world.Grown (outcome (conclude console fault) world).2) ∧
      ((outcome (conclude console fault) world).1 = .ok 1 ↔
        world.CanLog ∧ console.Reports world.crashNote) := by
  by_cases can : world.CanLog
  -- With a log the note about it is printed, unless the console cannot print it.
  · obtain ⟨logged, written, concluded⟩ := can.exists_outcome_conclude console unknown
    rw [concluded]
    unfold Console.Reports
    cases console.diagnostic .error world.crashNote with
    | ok text =>
      exact ⟨fun _ => written.grown (.report logged _), absurd can,
        iff_of_true rfl ⟨can, text, rfl⟩⟩
    | error fault =>
      exact ⟨fun _ => written, absurd can,
        iff_of_false (fun same => by cases same) (fun ⟨_, _, same⟩ => by cases same)⟩
  -- Without a log the fault of the log itself ends the run.
  · obtain ⟨other, unlogged, concluded, grown⟩ :=
      exists_outcome_conclude_of_not_canLog can console unknown
    rw [concluded]
    exact ⟨fun able => absurd able can, fun _ => grown,
      iff_of_false (fun same => by cases same) (fun able => can able.1)⟩

/-- A fault that is not a failure ends a run with no code but the general one. -/
theorem code_eq_of_unknown {console : Console} (unknown : ∀ failure, fault ≠ .failure failure)
    {code : Int} (ended : (outcome (conclude console fault) world).1 = .ok code) : code = 1 := by
  by_cases can : world.CanLog
  · obtain ⟨logged, -, concluded⟩ := can.exists_outcome_conclude console unknown
    rw [concluded] at ended
    cases reported : console.diagnostic .error world.crashNote with
    | ok text =>
      rw [reported] at ended
      exact (Except.ok.inj ended).symm
    | error unreported =>
      rw [reported] at ended
      cases ended
  · obtain ⟨other, unlogged, concluded, -⟩ :=
      exists_outcome_conclude_of_not_canLog can console unknown
    rw [concluded] at ended
    cases ended

/-! ### What is spared -/

namespace World

/-- Nothing was printed, and no file was changed or made but the log of a crash. -/
structure Spared (before after : World) : Prop where
  output_eq : after.output = before.output
  file_iff : ∀ place, place ≠ before.crashLogPlace → ∀ bytes,
    after.tree.item? place = some (.file bytes) ↔ before.tree.item? place = some (.file bytes)

theorem Grown.spared (grown : world.Grown after) : world.Spared after :=
  ⟨grown.output_eq, fun _ _ _ => grown.tree.file_iff⟩

theorem Written.spared {bytes : List UInt8}
    (written : world.Written after world.crashLogPlace bytes) : world.Spared after :=
  ⟨written.output_eq, fun _ apart _ => written.tree.file_iff apart⟩

end World

/-- A task that was stopped while it prepared does not end well, and has spared the world. -/
theorem spared_of_stopped {kinds : List FailureKind} (console : Console)
    (among : fault.Among kinds) (grown : world.Grown ready) :
    (outcome (conclude console fault) ready).1 ≠ .ok 0 ∧
      world.Spared (outcome (conclude console fault) ready).2 := by
  cases among with
  | failure member message =>
    rw [outcome_conclude_failure]
    cases console.diagnostic .error message with
    | ok text =>
      refine ⟨fun same => ?_, World.Grown.spared (grown.trans (.report ready _))⟩
      exact (Fault.Among.failure member message).exitCode_ne_zero (Except.ok.inj same)
    | error unreported => exact ⟨nofun, World.Grown.spared grown⟩
  -- The log is one file more, at a place of its own.
  | unforeseen kind =>
    have unknown (failure : Failure) : Fault.unforeseen kind ≠ .failure failure := nofun
    by_cases can : ready.CanLog
    · obtain ⟨logged, written, concluded⟩ := can.exists_outcome_conclude console unknown
      -- The place of the log was settled before the run: by the surroundings and the moment.
      rw [grown.crashLogPlace_eq] at written
      have written := grown.written written
      rw [concluded]
      cases console.diagnostic .error ready.crashNote with
      | ok text => exact ⟨nofun, World.Written.spared (written.grown (.report logged _))⟩
      | error unreported => exact ⟨nofun, World.Written.spared written⟩
    · obtain ⟨other, unlogged, concluded, further⟩ :=
        exists_outcome_conclude_of_not_canLog can console unknown
      rw [concluded]
      exact ⟨nofun, World.Grown.spared (grown.trans further)⟩

/-! ### Runs -/

/-- A failure ends the run with its exit code if and only if it can be reported, and leaves no log.
Any other fault leaves one log if it can be written, and ends the run with the general exit code if
and only if the log can be reported as well. Where nothing stops the task, there is no log. -/
theorem run_ending (arguments : List String) (world : World) :
    match outcome (attempt arguments) world, outcome (run arguments) world with
    | (.ok code, done), ending => ending = (.ok code, done)
    | (.error (.failure failure), stopped), (ended, after) =>
      (∃ diagnostics, after = { stopped with diagnostics }) ∧
        (ended = .ok failure.exitCode ↔ (world.console arguments).Reports failure.message)
    | (.error fault, stopped), (ended, after) =>
      (stopped.CanLog → stopped.Written after stopped.crashLogPlace fault.logged) ∧
        (¬stopped.CanLog → stopped.Grown after) ∧
        (ended = .ok 1 ↔
          stopped.CanLog ∧ (world.console arguments).Reports stopped.crashNote) := by
  rw [outcome_run]
  rcases outcome (attempt arguments) world with ⟨fault | code, stopped⟩
  · generalize world.console arguments = console
    cases fault with
    | failure failure =>
      dsimp only
      rw [outcome_conclude_failure]
      unfold Console.Reports
      cases console.diagnostic .error failure.message with
      | ok text => exact ⟨⟨_, rfl⟩, iff_of_true rfl ⟨text, rfl⟩⟩
      | error fault =>
        exact ⟨⟨stopped.diagnostics, rfl⟩,
          iff_of_false (fun same => by cases same) (fun ⟨_, same⟩ => by cases same)⟩
    | rejection rejection =>
      have unknown (failure : Failure) : Fault.rejection rejection ≠ .failure failure := nofun
      exact ending_of_unknown console unknown
    | unforeseen kind =>
      have unknown (failure : Failure) : Fault.unforeseen kind ≠ .failure failure := nofun
      exact ending_of_unknown console unknown
  · rfl

/-- A system with colour, and a directory for settings that holds none. -/
def coloredSystem : World where
  tree := ⟨[(["c"], .directory), (["c", "clisynth"], .directory)]⟩
  environment := [("XDG_CONFIG_HOME", "/c")]
  system := "Linux"

/-- The name of a missing document is read as a closing tag, so that its failure does not end the
run with the exit code of its kind. -/
theorem run_ending_of_closing_name :
    (outcome (attempt ["render", "[/x]"]) coloredSystem).1 =
        .error (.failure { kind := .signature, message := "Signature file not found: [/x]" }) ∧
      (outcome (run ["render", "[/x]"]) coloredSystem).1 ≠ .ok FailureKind.signature.exitCode := by
  have attempted : (outcome (attempt ["render", "[/x]"]) coloredSystem).1 =
      .error (.failure { kind := .signature, message := "Signature file not found: [/x]" }) := by
    decide
  refine ⟨attempted, ?_⟩
  have colored : (coloredSystem.console ["render", "[/x]"]).usesColor := by decide
  -- The first bracket of the message opens a tag that closes what is not open.
  have letters : "Signature file not found: [/x]".toList =
      "Signature file not found: ".toList ++ ('[' :: ('/' :: ['x']) ++ ']' :: []) := by simp
  have silent := Console.not_reports_of_closing colored letters (by simp) (by decide)
  rw [outcome_run]
  rcases found : outcome (attempt ["render", "[/x]"]) coloredSystem with ⟨ended, stopped⟩
  rw [found] at attempted
  cases attempted
  dsimp only
  rw [outcome_conclude_failure]
  cases reported : (coloredSystem.console ["render", "[/x]"]).diagnostic .error
      "Signature file not found: [/x]" with
  | ok text => exact absurd ⟨text, reported⟩ silent
  | error fault => exact fun same => by cases same

end EntryPoint
