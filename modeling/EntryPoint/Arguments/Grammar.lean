/-
# The grammar of arguments

Arguments are options and operands. An option is spelled by two dashes and a
name, or by one dash and a letter; letters may share a dash. The value of an
option is attached to it or is the next argument. Two dashes alone end the
options.

## Main definitions

* `OptionForm` - a spelling, what it means, and whether a value follows.
* `Reading.classify` - what one argument is by itself.
* `Reading.readArguments` - the meanings of the options and the operands, in
  order.
-/

namespace EntryPoint.Arguments

/-- A spelling of an option: its dashes and name, and its meaning, which may wait for a value. -/
structure OptionForm (α : Type) where
  spelling : String
  meaning : α ⊕ (String → α)

/-- A form whose meaning waits for no value. -/
def OptionForm.flag {α : Type} (spelling : String) (meaning : α) : OptionForm α :=
  ⟨spelling, .inl meaning⟩

/-- A form whose meaning waits for a value. -/
def OptionForm.value {α : Type} (spelling : String) (meaning : String → α) : OptionForm α :=
  ⟨spelling, .inr meaning⟩

/-- What one argument is by itself: an operand, the end of the options, options, or options of which
the last one waits for the next argument. -/
inductive Token (α : Type)
  | operand
  | terminator
  | options (given : List α)
  | waiting (given : List α) (meaning : String → α)

/-- The meanings of options and the operands. -/
structure Reading (α : Type) where
  given : List α
  operands : List String

namespace Reading

variable {α : Type} (forms : List (OptionForm α))

/-- The meaning of a spelling. -/
def meaning? (spelling : String) : Option (α ⊕ (String → α)) :=
  (forms.find? (·.spelling = spelling)).map (·.meaning)

/-- What letters behind one dash are. The letters behind one that waits for a value are the
value. -/
def classifyLetters : List Char → Option (Token α)
  | [] => some (.options [])
  | letter :: rest =>
    match meaning? forms (String.ofList ['-', letter]) with
    | none => none
    | some (.inr meaning) =>
      if rest.isEmpty then some (.waiting [] meaning)
      else some (.options [meaning (String.ofList rest)])
    | some (.inl meaning) =>
      match classifyLetters rest with
      | some (.options given) => some (.options (meaning :: given))
      | some (.waiting given last) => some (.waiting (meaning :: given) last)
      | _ => none

/-- What an argument is that starts with a dash; nothing if it is misspelled. A name of one letter
behind one dash is among the letters. -/
def classifyOption (argument : List Char) : Option (Token α) :=
  let name := argument.takeWhile (· ≠ '=')
  let attached := argument.drop name.length
  let isLong := name.take 2 = ['-', '-']
  match if isLong then meaning? forms (String.ofList name) else none with
  | some (.inl meaning) => if attached.isEmpty then some (.options [meaning]) else none
  | some (.inr meaning) =>
    if attached.isEmpty then some (.waiting [] meaning)
    else some (.options [meaning (String.ofList (attached.drop 1))])
  | none => if isLong then none else classifyLetters forms (argument.drop 1)

/-- What one argument is by itself; nothing if it is misspelled. A dash alone is an operand. -/
def classify (argument : String) : Option (Token α) :=
  match argument.toList with
  | ['-', '-'] => some .terminator
  | '-' :: c :: rest => classifyOption forms ('-' :: c :: rest)
  | _ => some .operand

/-- A reading with more meanings in front. -/
def withGiven (given : List α) (reading : Reading α) : Reading α :=
  { reading with given := given ++ reading.given }

/-- Reads arguments; nothing if one is misspelled or waits for a value in vain. Options may stand
behind operands only where that is said. -/
def readArguments (interspersed : Bool) : List String → Option (Reading α)
  | [] => some ⟨[], []⟩
  | argument :: rest =>
    match classify forms argument with
    | none => none
    | some .terminator => some ⟨[], rest⟩
    | some .operand =>
      if interspersed then
        (readArguments interspersed rest).map fun reading =>
          { reading with operands := argument :: reading.operands }
      else some ⟨[], argument :: rest⟩
    | some (.options given) => (readArguments interspersed rest).map (withGiven given)
    | some (.waiting given meaning) =>
      match rest with
      | [] => none
      | value :: rest =>
        (readArguments interspersed rest).map (withGiven (given ++ [meaning value]))

end Reading

end EntryPoint.Arguments
