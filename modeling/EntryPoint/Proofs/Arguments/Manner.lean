/-
# Manners of requests

The manner of a task comes from the options in front of it. They name a format for
data or leave it to the console, but none of them names the format for terminals:
that one is for terminals which show colour, so that without colour generated code
is written as it is.

## Main results

* `Request.exists_mannerOf_of_ofArguments` - where a manner comes from.
* `codeText_of_colorless` - generated code without colour.
-/

import EntryPoint.Arguments.Request
import Mathlib.Data.List.Basic

namespace EntryPoint

namespace Request

variable {manner other : Manner} {task : Task} {arguments : List String}

/-- What counts before anything else is no task. -/
theorem ne_task_of_earlyRequest? {given : List ProgramOption} {request : Request}
    (early : earlyRequest? given = some request) : request ≠ .task manner task := by
  obtain ⟨option, -, found⟩ := List.exists_of_findSome?_eq_some early
  rintro rfl
  cases option <;> cases found

theorem manner_eq_of_ofRenderArguments
    (asked : ofRenderArguments manner arguments = .task other task) : other = manner := by
  unfold ofRenderArguments at asked
  split at asked
  · cases asked
  -- Of all ways to end, only one gives a task, and it keeps the manner.
  · split at asked
    · cases asked
    · split at asked
      · cases asked
        rfl
      · cases asked

theorem manner_eq_of_ofPlainArguments {page : HelpPage} {task? : List String → Option Task}
    (asked : ofPlainArguments manner page task? arguments = .task other task) :
    other = manner := by
  unfold ofPlainArguments at asked
  split at asked
  · cases asked
  · rename_i reading _
    split at asked
    · cases found : task? reading.operands with
      | none =>
        rw [found] at asked
        cases asked
      | some task =>
        rw [found] at asked
        cases asked
        rfl
    · cases asked

theorem ofConfigRemainder_ne_task : ofConfigRemainder arguments ≠ .task manner task := by
  unfold ofConfigRemainder
  split <;> exact nofun

theorem manner_eq_of_ofConfigArguments
    (asked : ofConfigArguments manner arguments = .task other task) : other = manner := by
  unfold ofConfigArguments at asked
  split at asked
  · cases asked
  -- Without a subcommand, or with one that is not known, there is no task.
  · split at asked
    · cases asked
    · cases asked
    · cases asked
    · split at asked
      · exact manner_eq_of_ofPlainArguments asked
      · exact manner_eq_of_ofPlainArguments asked
      · exact manner_eq_of_ofPlainArguments asked
      · exact absurd asked ofConfigRemainder_ne_task

theorem ofProgramRemainder_ne_task : ofProgramRemainder arguments ≠ .task manner task := by
  unfold ofProgramRemainder
  split
  · exact nofun
  · rename_i reading _
    cases early : earlyRequest? reading.given with
    | none => exact nofun
    | some request => exact ne_task_of_earlyRequest? early

theorem manner_eq_of_ofOperands (asked : ofOperands manner arguments = .task other task) :
    other = manner := by
  unfold ofOperands at asked
  split at asked
  · cases asked
  · exact manner_eq_of_ofRenderArguments asked
  · exact manner_eq_of_ofConfigArguments asked
  · exact absurd asked ofProgramRemainder_ne_task

/-- The manner of a task is that of the options in front of it. -/
theorem exists_mannerOf_of_ofArguments (asked : ofArguments arguments = .task manner task) :
    ∃ given, manner = mannerOf given := by
  unfold ofArguments at asked
  split at asked
  · cases asked
  · split at asked
    · cases asked
    · rename_i reading _
      cases early : earlyRequest? reading.given with
      | none =>
        rw [early] at asked
        exact ⟨reading.given, manner_eq_of_ofOperands asked⟩
      | some request =>
        rw [early] at asked
        exact absurd asked (ne_task_of_earlyRequest? early)

end Request

/-- No options ask for the format for terminals. -/
theorem format_mannerOf_ne_rich (given : List Request.ProgramOption) :
    (Request.mannerOf given).console.format ≠ some .rich := by
  unfold Request.mannerOf
  dsimp only
  split
  · exact nofun
  · split <;> exact nofun

/-- Without colour generated code is written as it is. -/
theorem codeText_of_colorless {arguments : List String} {manner : Manner} {task : Task}
    (asked : Request.ofArguments arguments = .task manner task) {surroundings : Surroundings}
    (colorless : (Console.ofFlags manner.console surroundings).usesColor = false)
    (source : String) : (Console.ofFlags manner.console surroundings).codeText source = source := by
  obtain ⟨given, rfl⟩ := Request.exists_mannerOf_of_ofArguments asked
  have unasked := format_mannerOf_ne_rich given
  have format : (Console.ofFlags (Request.mannerOf given).console surroundings).format ≠ .rich := by
    unfold Console.ofFlags at colorless ⊢
    dsimp only at colorless ⊢
    rw [colorless, Bool.and_false]
    -- Rich text is only chosen without a format and with colour, and neither is so here.
    cases named : (Request.mannerOf given).console.format with
    | none => exact nofun
    | some format =>
      rintro rfl
      exact unasked named
  rw [Console.codeText, if_neg format]

end EntryPoint
