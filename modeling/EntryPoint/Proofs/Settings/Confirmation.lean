/-
# Questions and their answers

A question is asked until a line of the input answers it. So the answer is that of
the first line that is one, and there is none if the input ends before.

## Main definitions

* `linesOf` - the lines of a text.
* `answerIn?` - the answer that an input gives.

## Main results

* `exists_outcome_confirm` - a question gets the answer that the input gives.
-/

import EntryPoint.Program.Configuring
import EntryPoint.Proofs.Session
import EntryPoint.Proofs.Text.Split
import Mathlib.Tactic.SplitIfs

namespace EntryPoint

open Session Text

variable {world : World}

/-! ### Lines -/

/-- The lines of a text. Behind the last end of a line there is a line only if it is not empty. -/
def linesOf (text : List Char) : List (List Char) :=
  let parts := partsOf '\n' text
  if parts.getLast? = some [] then parts.dropLast else parts

/-- A text is its first line and the lines behind it. -/
theorem linesOf_eq {text : List Char} (present : text ≠ []) :
    linesOf text = text.takeWhile (· ≠ '\n') ::
      linesOf (text.drop ((text.takeWhile (· ≠ '\n')).length + 1)) := by
  unfold linesOf
  rw [partsOf_eq]
  -- What stands behind the first line feed has lines of its own, even where it is empty.
  by_cases ended : '\n' ∈ text
  · rw [if_pos ended]
    obtain ⟨first, others, parts⟩ : ∃ first others, partsOf '\n'
        (text.drop ((text.takeWhile (· ≠ '\n')).length + 1)) = first :: others :=
      ⟨_, _, partsOf_eq '\n' _⟩
    rw [parts]
    dsimp only
    rw [List.getLast?_cons_cons, List.dropLast_cons_cons]
    split_ifs <;> rfl
  · have whole : text.takeWhile (· ≠ '\n') = text := takeWhile_of_notMem ended
    rw [if_neg ended, whole, List.drop_eq_nil_of_le (Nat.le_succ _)]
    dsimp only
    rw [List.getLast?_singleton, if_neg (by simpa using present)]
    rfl

/-! ### Answers -/

/-- The answer that an input gives: that of the first line that is one. An input that cannot be read
gives none. -/
def answerIn? : Except String String → Option Bool
  | .ok text => (linesOf text.toList).findSome? fun line => answerOf? (String.ofList line)
  | .error _ => none

theorem outcome_write_output (text : String) : outcome (Host.write .output text) world =
    (.ok (), { world with output := world.output ++ text }) := rfl

theorem outcome_readLine_error {mistake : String} (unreadable : world.input = .error mistake) :
    outcome Host.readLine world = (.ok none, world) := by
  change outcome readLine world = _
  unfold readLine
  rw [outcome_bind_of_ok outcome_get, unreadable]
  rfl

theorem outcome_readLine_nil (ended : world.input = .ok "") :
    outcome Host.readLine world = (.ok none, world) := by
  change outcome readLine world = _
  unfold readLine
  rw [outcome_bind_of_ok outcome_get, ended]
  rfl

/-- The next line is taken from the input. -/
theorem outcome_readLine {text : String} (input : world.input = .ok text) (present : text ≠ "") :
    outcome Host.readLine world =
      (.ok (some (World.splitLine text).1),
        { world with input := .ok (World.splitLine text).2 }) := by
  have present : ¬text.isEmpty := by simpa using present
  change outcome readLine world = _
  unfold readLine
  rw [outcome_bind_of_ok outcome_get, input]
  dsimp only
  rw [if_neg present]
  rfl

/-- The answer of a text is that of its first line, or else that of the lines behind it. -/
theorem answerIn?_eq {text : String} (present : text ≠ "") :
    answerIn? (.ok text) = (answerOf? (World.splitLine text).1).or
      (answerIn? (.ok (World.splitLine text).2)) := by
  have nonempty : text.toList ≠ [] := fun none => present (String.toList_eq_nil_iff.mp none)
  simp only [answerIn?, World.splitLine, String.toList_ofList]
  rw [linesOf_eq nonempty, List.findSome?_cons]
  cases answerOf? (String.ofList (text.toList.takeWhile (· ≠ '\n'))) <;> rfl

theorem length_splitLine_lt {text : String} (present : text ≠ "") :
    (World.splitLine text).2.length < text.length := by
  have nonempty : text.toList ≠ [] := fun none => present (String.toList_eq_nil_iff.mp none)
  have positive := List.length_pos_iff.mpr nonempty
  rw [World.splitLine, String.length_ofList, ← String.length_toList, List.length_drop]
  omega

/-- A question gets the answer that the input gives, if it may be asked once more than there are
characters. -/
theorem exists_outcome_confirmWithin (question : String) {attempts : Nat}
    (enough : (world.input.toOption.getD "").length < attempts) :
    ∃ input output, outcome (confirmWithin question attempts) world =
      (.ok (answerIn? world.input), { world with input, output }) := by
  -- Each question that is not answered takes a line of the input, so the attempts last.
  induction attempts generalizing world with
  | zero => exact absurd enough (Nat.not_lt_zero _)
  | succ attempts ih =>
    unfold confirmWithin
    rw [outcome_bind_of_ok (outcome_write_output _)]
    -- The question is on the output now, on which the answer does not depend.
    generalize asked : ({ world with output := world.output ++ (question ++ " [y/N]: ") } : World) =
      between
    have input : between.input = world.input := by rw [← asked]
    have others (input : Except String String) (output : String) :
        ({ world with input, output } : World) = { between with input, output } := by
      rw [← asked]
    simp only [others]
    clear asked others
    rw [← input] at enough ⊢
    cases given : between.input with
    | error mistake =>
      rw [outcome_bind_of_ok (outcome_readLine_error given)]
      exact ⟨between.input, between.output, rfl⟩
    | ok text =>
      rcases eq_or_ne text "" with rfl | present
      · rw [outcome_bind_of_ok (outcome_readLine_nil given)]
        exact ⟨between.input, between.output, rfl⟩
      · rw [outcome_bind_of_ok (outcome_readLine given present), answerIn?_eq present]
        dsimp only
        cases answerOf? (World.splitLine text).1 with
        | some answer => exact ⟨_, between.output, rfl⟩
        -- The line is no answer, so the question is asked again about what is left of the input.
        | none =>
          dsimp only
          rw [outcome_bind_of_ok (outcome_write_output _), Option.none_or]
          have fewer := length_splitLine_lt present
          rw [given] at enough
          exact ih (Nat.lt_of_lt_of_le fewer (Nat.le_of_lt_succ enough))

theorem exists_outcome_confirm (world : World) (question : String) :
    ∃ input output, outcome (confirm question) world =
      (.ok (answerIn? world.input), { world with input, output }) := by
  have bound : outcome Host.lineBound world =
      (.ok (world.input.toOption.getD "").length, world) := rfl
  unfold confirm
  rw [outcome_bind_of_ok bound]
  exact exists_outcome_confirmWithin question (Nat.lt_succ_self _)

end EntryPoint
