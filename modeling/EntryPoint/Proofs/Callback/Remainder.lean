/-
# What is left for the options

The last argument of the function is a mapping of all parsed arguments that the
pattern of the handler leaves over. The pattern takes the two keys of the program and
the positionals, and the check of a signature keeps options apart from the positionals
alone. An option that has the name of a key of the program is therefore accepted, and
the function never receives it. All other declared options arrive, if the function is
called at all: where it or a positional has the name of the constant it is not.

## Main results

* `get?_remaining` - what is left over.
* `runFunction_handler_of_options` - the call of a function with options.
* `option_arrives_iff` - which declared options arrive.
-/

import EntryPoint.Proofs.Association
import EntryPoint.Proofs.Callback.Dispatch

namespace EntryPoint

open Syntax Text Execution

variable {V : Type} {signature : Signature} {parsed : Mapping V} {key : String}

theorem Execution.Mapping.get?_without (mapping : Mapping V) (keys : List String) :
    (mapping.without keys).get? key = if key ∈ keys then none else mapping.get? key := by
  have kept : (mapping.items.filter fun item => !keys.contains item.1).lookup key =
      if !keys.contains key then mapping.items.lookup key else none :=
    Association.lookup_filter fun candidate => !keys.contains candidate
  rw [Mapping.get?, Mapping.without, kept]
  by_cases member : key ∈ keys <;> simp [member, Mapping.get?]

/-- The items that the pattern does not take are left over. -/
theorem get?_remaining :
    (remaining signature parsed).get? key =
      if key = bucketKey ∨ key = programKey ∨ key ∈ signature.positionalNames then none
      else parsed.get? key := by
  rw [remaining, Mapping.get?_without]
  simp only [List.mem_cons]

/-- On parsed arguments with all keys, a function with options is called once, and what is left over
is its last argument. -/
theorem runFunction_handler_of_options (shown : Datum V → Option String)
    (accepted : signature.Accepted) (free : signature.DebugFree) (takes : signature.options ≠ [])
    (bucket : bucketKey ∈ parsed.keys) (program : programKey ∈ parsed.keys)
    (positionals : ∀ name ∈ signature.positionalNames, name ∈ parsed.keys) :
    ∃ leading : List (Datum V),
      (runFunction shown (handler signature) (.mapping parsed)).calls =
        [⟨.outer signature.name, leading ++ [.mapping (remaining signature parsed)]⟩] ∧
      (runFunction shown (handler signature) (.mapping parsed)).halt = none := by
  obtain ⟨function, compiled⟩ := Signature.debugFree_iff.mp free
  rw [← debugName_mem_functionLocals_iff] at compiled
  obtain ⟨items, named, found⟩ := Mapping.exists_items positionals
  have matched := bindings_destructuringPattern accepted bucket program named found
  -- With options there is a name for what is left, and it comes last among the captured ones.
  have rest : restNames signature = [optionsName] := by
    rw [restNames, if_neg (by simpa using takes)]
  rw [runFunction_handler_of_bindings accepted shown compiled matched (map_fst_capturedData named),
    if_neg function]
  refine ⟨(items.map Prod.snd).map .given, ?_, rfl⟩
  simp [capturedData, rest]

/-- Where neither the function nor a positional has the name of the constant, a function with
options is called once on parsed arguments with all keys, and a declared option that is among the
parsed arguments arrives in the last argument exactly if its name is neither of the two keys of the
program. -/
theorem option_arrives_iff (shown : Datum V → Option String)
    (accepted : checkSignature signature = .ok ()) (free : signature.DebugFree)
    (takes : signature.options ≠ []) (parsed : Mapping V) (bucket : bucketKey ∈ parsed.keys)
    (program : programKey ∈ parsed.keys)
    (positionals : ∀ name ∈ signature.positionalNames, name ∈ parsed.keys) :
    ∃ (leading : List (Datum V)) (rest : Mapping V),
      (runFunction shown (handler signature) (.mapping parsed)).calls =
        [⟨.outer signature.name, leading ++ [.mapping rest]⟩] ∧
      (runFunction shown (handler signature) (.mapping parsed)).halt = none ∧
      ∀ option ∈ signature.optionNames, ∀ value, parsed.get? option = some value →
        (rest.get? option = some value ↔ option ≠ bucketKey ∧ option ≠ programKey) := by
  have accepted := checkSignature_eq_ok_iff.mp accepted
  obtain ⟨leading, called, ended⟩ :=
    runFunction_handler_of_options shown accepted free takes bucket program positionals
  refine ⟨leading, remaining signature parsed, called, ended, ?_⟩
  intro option declared value given
  -- The pattern takes three kinds of keys, and the check keeps options apart from one of them.
  have apart := accepted.option_unpositioned option declared
  rw [get?_remaining, given]
  by_cases taken : option = bucketKey ∨ option = programKey
  · rw [if_pos (taken.imp_right .inl), ← not_or]
    simp [taken]
  · rw [not_or] at taken
    simp [taken, apart]

/-- A function with an option that has the name of a key of the program. -/
def misnamed : Signature :=
  { copying with
    options := [⟨"force", defaultCall "option" "force"⟩, ⟨"_", defaultCall "option" "_"⟩] }

theorem option_arrives_misnamed :
    checkSignature misnamed = .ok () ∧ misnamed.DebugFree ∧ misnamed.options ≠ [] ∧
      bucketKey ∈ copyingArguments.keys ∧ programKey ∈ copyingArguments.keys ∧
      (∀ name ∈ misnamed.positionalNames, name ∈ copyingArguments.keys) ∧
      ∃ (leading : List (Datum Nat)) (rest : Mapping Nat),
        (runFunction (fun _ => none) (handler misnamed) (.mapping copyingArguments)).calls =
          [⟨.outer "copy", leading ++ [.mapping rest]⟩] ∧
        rest.get? "force" = some 3 ∧ rest.get? "_" ≠ some 5 := by
  have accepted : checkSignature misnamed = .ok () := rfl
  have free : misnamed.DebugFree := by
    rw [Signature.DebugFree]
    decide
  have takes : misnamed.options ≠ [] := List.cons_ne_nil _ _
  have bucket : bucketKey ∈ copyingArguments.keys := by decide
  have program : programKey ∈ copyingArguments.keys := by decide
  have positionals : ∀ name ∈ misnamed.positionalNames, name ∈ copyingArguments.keys := by decide
  obtain ⟨leading, rest, called, -, arrives⟩ :=
    option_arrives_iff (fun _ => none) accepted free takes copyingArguments bucket program
      positionals
  refine ⟨accepted, free, takes, bucket, program, positionals, leading, rest, called, ?_, ?_⟩
  · exact (arrives "force" (by decide) 3 rfl).mpr ⟨by decide, by decide⟩
  · intro arrived
    exact ((arrives "_" (by decide) 5 rfl).mp arrived).1 rfl

/-- The option is declared, accepted and given, and what the function receives lacks it. -/
theorem misnamed_option_lost :
    checkSignature misnamed = .ok () ∧ "_" ∈ misnamed.optionNames ∧
      (∀ key ∈ bucketKey :: programKey :: misnamed.positionalNames,
        key ∈ copyingArguments.keys) ∧
      copyingArguments.get? "_" = some 5 ∧
      ∃ rest : Mapping Nat,
        (runFunction (fun _ => none) (handler misnamed) (.mapping copyingArguments)).calls =
          [⟨.outer "copy", [.given 1, .given 2, .mapping rest]⟩] ∧
        rest.items = [("depth", 4), ("force", 3)] :=
  ⟨rfl, by decide, by decide, rfl, remaining misnamed copyingArguments, rfl, rfl⟩

end EntryPoint
