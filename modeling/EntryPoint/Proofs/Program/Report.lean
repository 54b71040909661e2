/-
# Reports and logs

A diagnostic is written to its stream, unless colour is used and its message cannot
be shown as markup. A fault that is not foreseen goes to a log, whose place is
settled by the surroundings and the moment, and the log is written whole or not at
all.

## Main definitions

* `World.surroundings` - the surroundings of a console.
* `Console.Reports` - an error can be reported.
* `World.crashLog`, `World.crashLogPlace` - the path of the log of a crash, and its place.
* `World.CanLog` - the log of a crash can be written.

## Main results

* `Console.reports_of_colorless`, `Console.exists_diagnostic_success`,
  `Console.not_reports_of_closing` - what can be reported, and what cannot.
* `outcome_report` - what a report comes to.
* `World.CanLog.exists_outcome_writeCrashLog`, `exists_outcome_writeCrashLog_of_not_canLog` - what
  logging a fault comes to.
-/

import EntryPoint.Program.Report
import EntryPoint.Proofs.Console.Diagnostics
import EntryPoint.Proofs.Session.Replacement
import EntryPoint.Proofs.Settings.Preparation

namespace EntryPoint

open Session

variable {kinds : List FailureKind} {world after : World} {console : Console} {message : String}

/-! ### Consoles -/

/-- The surroundings of a console. -/
def World.surroundings (world : World) : Surroundings where
  isTerminal := world.isTerminal
  noColor := world.environment.lookup "NO_COLOR"
  term := world.environment.lookup "TERM"

theorem outcome_openConsole (flags : ConsoleFlags) :
    outcome (openConsole flags) world = (.ok (.ofFlags flags world.surroundings), world) := rfl

/-! ### Diagnostics -/

/-- An error can be reported. -/
def Console.Reports (console : Console) (message : String) : Prop :=
  ∃ text, console.diagnostic .error message = .ok text

/-- Without colour every diagnostic can be written. -/
theorem Console.exists_diagnostic_of_colorless (colorless : console.usesColor = false)
    (diagnostic : Diagnostic) (message : String) :
    ∃ text, console.diagnostic diagnostic message = .ok text := by
  unfold Console.diagnostic
  split
  · exact ⟨_, rfl⟩
  · rw [colorless]
    exact ⟨_, rfl⟩

theorem Console.reports_of_colorless (colorless : console.usesColor = false) (message : String) :
    console.Reports message :=
  exists_diagnostic_of_colorless colorless .error message

/-- A success with a plain message can be reported in every manner. -/
theorem Console.exists_diagnostic_success (console : Console)
    (plain : ∀ c ∈ message.toList, c ≠ '[' ∧ c ≠ '\\') :
    ∃ text, console.diagnostic .success message = .ok text := by
  have absent : '[' ∉ message.toList := fun member => (plain _ member).1 rfl
  obtain ⟨shown, visible⟩ :=
    exists_visibleText_of_not_holdsTag .success (not_holdsTag_of_notMem absent)
  unfold Console.diagnostic
  rw [visible]
  split
  · exact ⟨_, rfl⟩
  · split <;> exact ⟨_, rfl⟩

/-- With colour a closing tag behind nothing but plain text cannot be reported. -/
theorem Console.not_reports_of_closing (colored : console.usesColor) {text name rest : List Char}
    (split : message.toList = text ++ ('[' :: ('/' :: name) ++ ']' :: rest))
    (plain : ∀ c ∈ text, c ≠ '[' ∧ c ≠ '\\') (tag : IsTagContent ('/' :: name)) :
    ¬console.Reports message := by
  obtain ⟨mistake, unreadable⟩ :=
    exists_visibleText_eq_error_of_closing .error rfl split plain tag
  rintro ⟨shown, reported⟩
  unfold Console.diagnostic at reported
  rw [unreadable, if_neg (by simp [Console.shows]), if_neg (by simp [colored])] at reported
  cases mistake <;> cases reported

theorem stopsAmong_diagnostic (console : Console) (diagnostic : Diagnostic) (message : String) :
    StopsAmong kinds (console.diagnostic diagnostic message) := by
  unfold Console.diagnostic
  split
  · exact .ok _
  · split
    · exact .ok _
    · split
      · exact .ok _
      · exact .unforeseen .markup
      · exact .unforeseen .value

/-! ### Reports -/

theorem outcome_report (console : Console) (diagnostic : Diagnostic) (message : String) :
    outcome (report console diagnostic message) world =
      match console.diagnostic diagnostic message with
      | .ok text => (.ok (), { world with diagnostics := world.diagnostics ++ text })
      | .error fault => (.error fault, world) := by
  unfold report
  rw [outcome_bind, outcome_orStop]
  cases console.diagnostic diagnostic message <;> rfl

/-- A step that ends with a report. -/
theorem outcome_report_bind_pure {α : Type} (console : Console) (diagnostic : Diagnostic)
    (message : String) (value : α) :
    outcome (report console diagnostic message >>= fun _ => pure value) world =
      match console.diagnostic diagnostic message with
      | .ok text => (.ok value, { world with diagnostics := world.diagnostics ++ text })
      | .error fault => (.error fault, world) := by
  rw [outcome_bind, outcome_report]
  cases console.diagnostic diagnostic message <;> rfl

/-- Without colour every report succeeds. -/
theorem exists_outcome_report (world : World) (colorless : console.usesColor = false)
    (diagnostic : Diagnostic) (message : String) : ∃ diagnostics,
      outcome (report console diagnostic message) world =
        (.ok (), { world with diagnostics }) := by
  obtain ⟨text, written⟩ := Console.exists_diagnostic_of_colorless colorless diagnostic message
  exact ⟨world.diagnostics ++ text, by rw [outcome_report, written]⟩

/-- A report that is made changes nothing but the diagnostics. -/
theorem exists_of_outcome_report {console : Console} {diagnostic : Diagnostic} {message : String}
    (reported : outcome (report console diagnostic message) world = (.ok (), after)) :
    ∃ diagnostics, after = { world with diagnostics } := by
  rw [outcome_report] at reported
  cases written : console.diagnostic diagnostic message with
  | error fault =>
    rw [written] at reported
    cases reported
  | ok text =>
    rw [written] at reported
    cases reported
    exact ⟨_, rfl⟩

theorem prepares_report (console : Console) (diagnostic : Diagnostic) (message : String) :
    Prepares kinds (report console diagnostic message) :=
  .bind (.orStop (stopsAmong_diagnostic console diagnostic message)) prepares_write_diagnostics

/-! ### The log of a crash -/

/-- The directory of the data. -/
def World.dataPath (world : World) : Path :=
  world.programPath "XDG_DATA_HOME" [".local", "share"] ["." ++ programName, "logs"]

/-- The directory of the logs. -/
def World.logDirectory (world : World) : Path :=
  world.dataPath.child "logs"

/-- The path of the log of a crash. -/
def World.crashLog (world : World) : Path :=
  world.logDirectory.child ("crash-" ++ world.moment ++ ".log")

/-- The place of the log of a crash. -/
def World.crashLogPlace (world : World) : List String :=
  world.crashLog.destination world.directory

/-- What goes to the log of a fault. -/
def Fault.logged (fault : Fault) : List UInt8 :=
  Text.utf8Bytes (fault.text ++ "\n")

theorem World.Grown.crashLog_eq (grown : world.Grown after) : after.crashLog = world.crashLog := by
  obtain ⟨-, _, _, same⟩ := grown
  rw [same]
  rfl

theorem World.Grown.crashLogPlace_eq (grown : world.Grown after) :
    after.crashLogPlace = world.crashLogPlace := by
  rw [crashLogPlace, grown.crashLog_eq, grown.directory_eq, crashLogPlace]

/-- Makes the directory of the logs, and gives its path. -/
def openLogs : Session Path := do
  let logs := (← dataDirectory).child "logs"
  makeDirectories logs
  return logs

theorem writeCrashLog_eq (fault : Fault) : (writeCrashLog fault : Session Path) = do
    let logs ← openLogs
    let moment ← Host.moment
    let log := logs.child ("crash-" ++ moment ++ ".log")
    Host.writeFile log fault.logged
    return log := by
  simp only [writeCrashLog, openLogs, bind_assoc, pure_bind]
  rfl

theorem prepares_openLogs : Prepares kinds openLogs :=
  .bind prepares_dataDirectory fun _ => .bind (prepares_makeDirectories _) fun _ => .pure _

theorem grown_of_outcome_openLogs {result : Except Fault Path}
    (opened : outcome openLogs world = (result, after)) : world.Grown after :=
  (prepares_openLogs : Prepares [] openLogs).grown_of_outcome opened

theorem eq_of_outcome_openLogs {logs : Path} (opened : outcome openLogs world = (.ok logs, after)) :
    logs = world.logDirectory := by
  obtain ⟨data, _, made, opened⟩ := exists_of_outcome_bind_eq_ok opened
  unfold dataDirectory at made
  rw [outcome_bind_of_ok (outcome_programDirectory _ _ _)] at made
  obtain ⟨-, _, -, made⟩ := exists_of_outcome_bind_eq_ok made
  obtain ⟨-, _, -, opened⟩ := exists_of_outcome_bind_eq_ok opened
  cases made
  cases opened
  rfl

/-- The log of a crash can be written: its directory is there or can be made, and what stands in its
place, if anything does, is no directory. -/
def World.CanLog (world : World) : Prop :=
  ∃ ready place, outcome openLogs world = (.ok world.logDirectory, ready) ∧
    ready.tree.locate ready.directory world.crashLog = .ok place ∧
    ready.tree.item? place ≠ some .directory

/-- Where the directories stand, only a directory in the place of the log is in its way. -/
theorem World.canLog_of_isDirectory {data place : List String}
    (data : world.IsDirectory world.dataPath data)
    (logs : world.IsDirectory world.logDirectory place)
    (file : IsFileName ("crash-" ++ world.moment ++ ".log"))
    (vacant : world.tree.item? (place ++ ["crash-" ++ world.moment ++ ".log"]) ≠
      some .directory) : world.CanLog := by
  refine ⟨world, _, ?_, file.locate_child logs.leads logs.stands, vacant⟩
  have ready : outcome dataDirectory world = (.ok world.dataPath, world) := by
    unfold dataDirectory
    -- Both directories are there, so making them ready changes nothing.
    rw [outcome_bind_of_ok (outcome_programDirectory _ _ _)]
    exact outcome_bind_of_ok data.outcome_makeDirectories
  unfold openLogs
  rw [outcome_bind_of_ok ready]
  exact outcome_bind_of_ok logs.outcome_makeDirectories

/-- Behind the opening of the logs there is one write. -/
theorem outcome_writeCrashLog_of_opened {logs : Path} {ready : World}
    (opened : outcome openLogs world = (.ok logs, ready)) (fault : Fault) :
    outcome (writeCrashLog fault) world =
      match ready.tree.locate ready.directory world.crashLog >>= fun place =>
        ready.tree.write fault.logged place with
      | .ok tree => (.ok world.crashLog, { ready with tree })
      | .error kind => (.error (.unforeseen kind), ready) := by
  -- Only files have been added, so the moment is still the one the name of the log is made of.
  have grown := grown_of_outcome_openLogs opened
  obtain rfl := eq_of_outcome_openLogs opened
  have path : world.logDirectory.child ("crash-" ++ ready.moment ++ ".log") = world.crashLog := by
    rw [grown.moment_eq, World.crashLog]
  have asked : outcome (Host.moment : Session String) ready = (.ok ready.moment, ready) := rfl
  rw [writeCrashLog_eq, outcome_bind_of_ok opened, outcome_bind_of_ok asked, path, outcome_bind,
    outcome_writeFile]
  cases ready.tree.locate ready.directory world.crashLog >>= fun place =>
    ready.tree.write fault.logged place <;> rfl

/-- A fault is logged to a file of its own. -/
theorem World.CanLog.exists_outcome_writeCrashLog (can : world.CanLog) (fault : Fault) :
    ∃ logged, outcome (writeCrashLog fault) world = (.ok world.crashLog, logged) ∧
      world.Written logged world.crashLogPlace fault.logged := by
  obtain ⟨ready, place, opened, leads, vacant⟩ := can
  have grown := grown_of_outcome_openLogs opened
  refine ⟨{ ready with tree := ready.tree.put place (.file fault.logged) }, ?_, ?_⟩
  · rw [outcome_writeCrashLog_of_opened opened, leads]
    simp only [bind, Except.bind, FileTree.write_eq_ok_iff.mpr ⟨vacant, rfl⟩]
  · obtain rfl : place = world.crashLogPlace := by
      rw [FileTree.eq_destination_of_locate leads, grown.directory_eq, World.crashLogPlace]
    exact grown.written ⟨FileTree.written_put vacant, ready.input, ready.diagnostics, rfl⟩

/-- Where the log cannot be written no file is. -/
theorem exists_outcome_writeCrashLog_of_not_canLog (cannot : ¬world.CanLog) (fault : Fault) :
    ∃ other unlogged, outcome (writeCrashLog fault) world = (.error other, unlogged) ∧
      other.Among [] ∧ world.Grown unlogged := by
  -- Either the logs cannot be made ready, or the log itself cannot be written.
  rcases opened : outcome openLogs world with ⟨other | logs, ready⟩
  · refine ⟨other, ready, ?_, prepares_openLogs.among_of_outcome opened,
      grown_of_outcome_openLogs opened⟩
    rw [writeCrashLog_eq, outcome_bind_of_error opened]
  · cases done : ready.tree.locate ready.directory world.crashLog >>= fun place =>
        ready.tree.write fault.logged place with
    | error kind =>
      refine ⟨.unforeseen kind, ready, ?_, .unforeseen kind, grown_of_outcome_openLogs opened⟩
      rw [outcome_writeCrashLog_of_opened opened, done]
    -- A log that was written shows that one could be.
    | ok tree =>
      obtain ⟨place, leads, written⟩ := bind_eq_ok_iff.mp done
      obtain rfl := eq_of_outcome_openLogs opened
      exact absurd ⟨ready, place, opened, leads, (FileTree.write_eq_ok_iff.mp written).1⟩ cannot

end EntryPoint
