/-
# The text of the command

The parser of arguments learns from the text of the command which keys parsed
arguments have. The handler takes parsed arguments apart by these keys, and is
written by other definitions. The two agree: no name of an accepted signature holds
a blank, so the text splits into its words again, and the names in them are those
that the handler captures and passes on.

## Main definitions

* `Usage` - what a command takes.
* `Usage.tokens`, `Usage.ofText?` - the words that say so, and what a text says.

## Main results

* `blankParts_commandText` - the text splits into its words.
* `ofText?_commandText` - the text says what the signature takes.
* `commandText_agrees` - text and handler agree, and equal texts are of equal usage.
-/

import EntryPoint.Proofs.Callback.Dispatch
import EntryPoint.Proofs.Text.Split

namespace EntryPoint

open Syntax Text

variable {signature other : Signature} {name : String}

/-! ### What a command takes -/

/-- What a command takes: positionals by name in order, and options or none. -/
structure Usage where
  positionals : List String
  takesOptions : Bool
  deriving DecidableEq

/-- What the command of a signature takes. -/
def Signature.usage (signature : Signature) : Usage where
  positionals := signature.positionalNames
  takesOptions := !signature.options.isEmpty

/-- The usage tells the positionals, and whether there are options at all. -/
theorem usage_eq_iff :
    signature.usage = other.usage ↔
      signature.positionalNames = other.positionalNames ∧
        (signature.options = [] ↔ other.options = []) := by
  rw [Signature.usage, Signature.usage, Usage.mk.injEq, Bool.not_inj_iff, Bool.eq_iff_iff,
    List.isEmpty_iff, List.isEmpty_iff]

/-! ### Words -/

/-- The word for a positional. -/
def positionalToken (name : String) : String :=
  "<" ++ name ++ ">"

/-- The words of a command text. -/
def Usage.tokens (usage : Usage) : List String :=
  programToken :: usage.positionals.map positionalToken ++
    if usage.takesOptions then [optionsToken] else []

/-- The name in a word between angle brackets. -/
def tokenName? (token : String) : Option String :=
  match token.toList with
  | '<' :: rest => if rest.getLast? = some '>' then some (String.ofList rest.dropLast) else none
  | _ => none

/-- What the words behind the one for the program say. The word for options is the last one. -/
def Usage.ofTokens? : List String → Option Usage
  | [] => some ⟨[], false⟩
  | token :: rest =>
    if token = optionsToken then if rest = [] then some ⟨[], true⟩ else none
    else
      match tokenName? token, ofTokens? rest with
      | some name, some ⟨names, takesOptions⟩ => some ⟨name :: names, takesOptions⟩
      | _, _ => none

theorem tokenName?_positionalToken (name : String) :
    tokenName? (positionalToken name) = some name := by
  have chars : (positionalToken name).toList = '<' :: (name.toList ++ ['>']) := by
    rw [positionalToken, String.toList_append, String.toList_append]
    rfl
  rw [tokenName?, chars]
  change (if (name.toList ++ ['>']).getLast? = some '>' then _ else _) = some name
  rw [if_pos List.getLast?_concat, List.dropLast_concat, String.ofList_toList]

/-- Angle brackets keep a positional apart from the sign of the options. -/
theorem positionalToken_ne_optionsToken (name : String) : positionalToken name ≠ optionsToken := by
  intro same
  have named := tokenName?_positionalToken name
  rw [same] at named
  cases named

/-- The tokens of a usage are read back as that usage. -/
theorem ofTokens?_tokens (usage : Usage) :
    Usage.ofTokens? (usage.positionals.map positionalToken ++
      if usage.takesOptions then [optionsToken] else []) = some usage := by
  obtain ⟨names, takesOptions⟩ := usage
  induction names with
  | nil => cases takesOptions <;> rfl
  | cons first rest ih =>
    -- No word for a positional is taken for the options, so the names are read to their end.
    rw [List.map_cons, List.cons_append, Usage.ofTokens?,
      if_neg (positionalToken_ne_optionsToken first), tokenName?_positionalToken]
    dsimp only at ih ⊢
    rw [ih]

/-! ### The text -/

/-- The parts of a text between single blanks. -/
def blankParts (text : String) : List String :=
  (partsOf ' ' text.toList).map String.ofList

/-- What the text of a command says. -/
def Usage.ofText? (text : String) : Option Usage :=
  match blankParts text with
  | [] => none
  | first :: rest => if first = programToken then ofTokens? rest else none

theorem commandText_eq : commandText signature = " ".intercalate signature.usage.tokens := by
  rw [commandText, Usage.tokens, Signature.usage, Signature.positionalNames, List.map_map]
  cases signature.options.isEmpty <;> rfl

/-- A name between angle brackets holds a blank only if the name does. -/
theorem blank_notMem_positionalToken (bindable : isBindable name) :
    ' ' ∉ (positionalToken name).toList := by
  have absent : ' ' ∉ name.toList :=
    notMem_identifier (isIdentifier_of_isBindable bindable) (by decide) (by decide)
  rw [positionalToken, String.toList_append, String.toList_append]
  simpa using absent

namespace Signature.Accepted

theorem blank_notMem_tokens (accepted : signature.Accepted) :
    ∀ token ∈ signature.usage.tokens, ' ' ∉ token.toList := by
  intro token member
  rw [Usage.tokens, List.cons_append, List.mem_cons, List.mem_append, List.mem_map] at member
  rcases member with rfl | ⟨name, positional, rfl⟩ | options
  · decide
  · exact blank_notMem_positionalToken (accepted.positional_bindable name positional)
  · split at options
    · obtain rfl := List.mem_singleton.mp options
      decide
    · cases options

/-- The text of the command splits into its words. -/
theorem blankParts_commandText (accepted : signature.Accepted) :
    blankParts (commandText signature) = signature.usage.tokens := by
  have nonempty : signature.usage.tokens ≠ [] := List.cons_ne_nil _ _
  rw [blankParts, commandText_eq,
    partsOf_intercalate rfl nonempty accepted.blank_notMem_tokens, List.map_map]
  simp [Function.comp_def]

/-- The text of the command says what the signature takes. -/
theorem ofText?_commandText (accepted : signature.Accepted) :
    Usage.ofText? (commandText signature) = some signature.usage := by
  rw [Usage.ofText?, accepted.blankParts_commandText, Usage.tokens, List.cons_append]
  dsimp only
  rw [if_pos rfl, ofTokens?_tokens]

/-- Two commands have the same text exactly if they have the same usage. -/
theorem commandText_eq_iff (accepted : signature.Accepted) (accepted' : other.Accepted) :
    commandText signature = commandText other ↔ signature.usage = other.usage := by
  constructor
  · intro same
    have said := accepted.ofText?_commandText
    rw [same, accepted'.ofText?_commandText] at said
    exact (Option.some.inj said).symm
  · intro same
    rw [commandText_eq, commandText_eq, same]

theorem optionsToken_mem_iff (accepted : signature.Accepted) :
    optionsToken ∈ blankParts (commandText signature) ↔ signature.usage.takesOptions := by
  have program : optionsToken ≠ programToken := by decide
  have positional : optionsToken ∉ signature.usage.positionals.map positionalToken := by
    rw [List.mem_map]
    rintro ⟨name, -, same⟩
    exact positionalToken_ne_optionsToken name same
  rw [accepted.blankParts_commandText, Usage.tokens, List.cons_append, List.mem_cons,
    List.mem_append]
  cases signature.usage.takesOptions <;> simp [program, positional]

end Signature.Accepted

/-! ### Text and handler -/

/-- The text of an accepted signature's command splits at blanks into the word for the program, the
positionals between angle brackets, and the word for options if there are any. What it says is what
the handler does: behind the two keys of the program, its pattern captures each positional under its
own key, it captures the rest exactly if the text has the word for options, and the call passes on
what is captured. So the texts of two such signatures are equal exactly if both have the same
positionals in order, and both have options or neither has. -/
theorem commandText_agrees (accepted : checkSignature signature = .ok ()) :
    blankParts (commandText signature) =
      programToken :: signature.positionalNames.map positionalToken ++
        (if signature.options = [] then [] else [optionsToken]) ∧
    (∃ usage rest,
      Usage.ofText? (commandText signature) = some usage ∧
      usage.positionals = signature.positionalNames ∧
      (usage.takesOptions ↔ optionsToken ∈ blankParts (commandText signature)) ∧
      rest = (if usage.takesOptions then some optionsName else none) ∧
      handler signature = functionOf handlerName argvName
        [.matchBlock (.name argvName)
          [{ pattern := .mapping ((textExpr bucketKey, .capture none none) ::
                (textExpr programKey, .capture none none) ::
                usage.positionals.map fun name => (textExpr name, .capture none (some name))) rest
             body := [.expression (callOf signature.name
                (usage.positionals.map .name ++ rest.toList.map .name))] },
            { pattern := .capture none none, body := [mismatch] }]]) ∧
    ∀ other, checkSignature other = .ok () →
      (commandText signature = commandText other ↔
        signature.positionalNames = other.positionalNames ∧
          (signature.options = [] ↔ other.options = [])) := by
  have accepted := checkSignature_eq_ok_iff.mp accepted
  refine ⟨?_, ⟨signature.usage, _, accepted.ofText?_commandText, rfl,
    accepted.optionsToken_mem_iff.symm, rfl, ?_⟩, ?_⟩
  -- The words of the text, the function that it stands for, and that nothing else is told by it.
  · rw [accepted.blankParts_commandText, Usage.tokens, Signature.usage]
    cases signature.options <;> rfl
  · rw [handler, destructuringPattern_eq, dispatch_eq, capturedNames, restNames, List.map_append,
      Signature.usage]
    cases signature.options <;> rfl
  · intro other accepted'
    have accepted' := checkSignature_eq_ok_iff.mp accepted'
    rw [accepted.commandText_eq_iff accepted', usage_eq_iff]

theorem commandText_agrees_copying :
    checkSignature copying = .ok () ∧ checkSignature { copying with options := [] } = .ok () ∧
      blankParts (commandText copying) = ["$0", "<source>", "<target>", "[...options]"] ∧
      Usage.ofText? (commandText copying) = some ⟨["source", "target"], true⟩ ∧
      commandText copying ≠ commandText { copying with options := [] } := by
  have accepted : checkSignature copying = .ok () := rfl
  have accepted' : checkSignature { copying with options := [] } = .ok () := rfl
  obtain ⟨parts, ⟨⟨names, takesOptions⟩, rest, said, same, options, -, -⟩, texts⟩ :=
    commandText_agrees accepted
  obtain rfl : names = ["source", "target"] := same
  obtain rfl : takesOptions = true := options.mpr (by rw [parts]; decide)
  refine ⟨accepted, accepted', parts, said, fun equal => ?_⟩
  obtain ⟨-, optionless⟩ := (texts _ accepted').mp equal
  cases optionless.mpr rfl

end EntryPoint
