/-
# Runs of readers

What a reader reads is found step by step: its steps in order, repetitions for as
long as each takes a token, and items with commas between them.

## Main definitions

* `Reader.Steps` - the steps from one value to another.
* `Reader.Repeats` - the values that a reader yields until it yields none.
* `Reader.Items` - items between commas.

## Main results

* `Reader.iterate_of_steps`, `Reader.repeatedly_of_repeats` - repetitions are never cut short.
* `Reader.commaItems_of_items` - nor are items.
-/

import EntryPoint.Syntax.Reader.Basic

namespace EntryPoint.Syntax.Reader

variable {α β : Type} {reader : Reader α} {tokens rest out : List Token} {value result : α}
  {values : List α} {first token : Token} {symbol : String}

/-! ### Steps in order -/

theorem run_bind (reader : Reader α) (next : α → Reader β) (tokens : List Token) :
    (reader >>= next) tokens = (reader tokens).bind fun (value, rest) => next value rest := by
  show StateT.bind reader next tokens = _
  unfold StateT.bind
  cases reader tokens <;> rfl

/-- A reader goes on with what the one before has read. -/
theorem bind_of_eq {next : α → Reader β} (read : reader tokens = some (value, rest)) :
    (reader >>= next) tokens = next value rest := by
  rw [run_bind, read, Option.bind_some]

/-- Where what is asked for stands, the reader goes on with what it opens. -/
theorem ite_of_true {asked : Reader Bool} {yes no : Reader α}
    (stands : asked tokens = some (true, rest)) :
    (do if ← asked then yes else no) tokens = yes rest := by
  rw [bind_of_eq stands, if_pos rfl]

/-- Where it does not, the reader goes on to what else may stand there. -/
theorem ite_of_false {asked : Reader Bool} {yes no : Reader α}
    (stands : asked tokens = some (false, rest)) :
    (do if ← asked then yes else no) tokens = no rest := by
  rw [bind_of_eq stands, if_neg Bool.false_ne_true]

@[simp] theorem run_pure (value : α) (tokens : List Token) :
    (pure value : Reader α) tokens = some (value, tokens) := rfl

@[simp] theorem run_failure (tokens : List Token) : (failure : Reader α) tokens = none := rfl

@[simp] theorem run_map (f : α → β) (reader : Reader α) (tokens : List Token) :
    (f <$> reader) tokens = (reader tokens).map fun (value, rest) => (f value, rest) := by
  show StateT.map f reader tokens = _
  unfold StateT.map
  cases reader tokens <;> rfl

/-- The other reader starts with the same tokens. -/
theorem run_orElse (reader other : Reader α) (tokens : List Token) :
    (reader <|> other) tokens = (reader tokens).or (other tokens) := by
  show (StateT.orElse reader fun _ => other) tokens = _
  unfold StateT.orElse
  cases reader tokens <;> rfl

theorem optionally_of_eq_some (read : reader tokens = some (value, rest)) :
    optionally reader tokens = some (some value, rest) := by
  rw [optionally, run_orElse, run_map, read]
  rfl

/-- What cannot be read is left out, and no token is taken. -/
theorem optionally_of_eq_none (failed : reader tokens = none) :
    optionally reader tokens = some (none, tokens) := by
  rw [optionally, run_orElse, run_map, failed]
  rfl

@[simp] theorem require_true (tokens : List Token) : require true tokens = some ((), tokens) := rfl

@[simp] theorem ofOption_some (value : α) (tokens : List Token) :
    ofOption (some value) tokens = some (value, tokens) := rfl

/-! ### Single tokens -/

@[simp] theorem next_cons : next (first :: rest) = some (first, rest) := rfl

@[simp] theorem peek?_cons : peek? (first :: rest) = some (some first, first :: rest) := rfl

@[simp] theorem peek?_nil : peek? [] = some (none, []) := rfl

/-- A name is read whether or not it is normal. -/
@[simp] theorem name_cons (text : String) (isNormal : Bool) :
    name (.name text isNormal :: rest) = some (text, rest) := rfl

theorem accept_self : accept token (token :: rest) = some (true, rest) :=
  if_pos rfl

/-- A token that does not come next is not taken. -/
theorem accept_of_head?_ne (other : tokens.head? ≠ some token) :
    accept token tokens = some (false, tokens) := by
  cases tokens with
  | nil => rfl
  | cons first rest => exact if_neg fun same => other (by rw [same]; rfl)

theorem expect_self : expect token (token :: rest) = some ((), rest) :=
  if_pos rfl

@[simp] theorem symbol?_self : symbol? symbol (.symbol symbol :: rest) = some (true, rest) :=
  accept_self

@[simp] theorem symbol_self : Reader.symbol symbol (.symbol symbol :: rest) = some ((), rest) :=
  expect_self

@[simp] theorem word?_self {text : String} :
    word? text (.keyword text :: rest) = some (true, rest) :=
  accept_self

@[simp] theorem word_self {text : String} : word text (.keyword text :: rest) = some ((), rest) :=
  expect_self

/-- A symbol that does not come next is not taken. -/
theorem symbol?_of_head?_ne (other : tokens.head? ≠ some (.symbol symbol)) :
    symbol? symbol tokens = some (false, tokens) :=
  accept_of_head?_ne other

/-- Nor is a word. -/
theorem word?_of_head?_ne {text : String} (other : tokens.head? ≠ some (.keyword text)) :
    word? text tokens = some (false, tokens) :=
  accept_of_head?_ne other

/-! ### Repetitions -/

/-- The steps from a value to another, each of which takes a token at least. -/
inductive Steps (step : α → Reader (Option α)) : α → List Token → α → List Token → Prop
  | stop {value : α} {tokens : List Token} (stops : step value tokens = some (none, tokens)) :
    Steps step value tokens value tokens
  | more {value value' result : α} {tokens tokens' out : List Token}
    (goes : step value tokens = some (some value', tokens'))
    (takes : tokens'.length < tokens.length) (rest : Steps step value' tokens' result out) :
    Steps step value tokens result out

/-- Steps that each take a token are taken one after the other until one takes none. -/
theorem iterate_of_steps {step : α → Reader (Option α)}
    (steps : Steps step value tokens result out) :
    iterate step value tokens = some (result, out) := by
  -- Every step takes a token, so that the number of tokens bounds the number of steps.
  suffices ∀ fuel, tokens.length ≤ fuel → iterateUpTo step fuel value tokens = some (result, out)
    from this _ (Nat.le_refl _)
  induction steps with
  | stop stops =>
    intro fuel room
    cases fuel with
    | zero => rfl
    | succ fuel => rw [iterateUpTo, bind_of_eq stops]; rfl
  | more goes takes _ ih =>
    intro fuel room
    cases fuel with
    | zero => omega
    | succ fuel => rw [iterateUpTo, bind_of_eq goes]; exact ih fuel (by omega)

/-- The values that a reader yields until it yields none. -/
inductive Repeats (step : Reader (Option α)) : List Token → List α → List Token → Prop
  | stop {tokens : List Token} (stops : step tokens = some (none, tokens)) :
    Repeats step tokens [] tokens
  | more {tokens tokens' out : List Token} {value : α} {values : List α}
    (goes : step tokens = some (some value, tokens'))
    (takes : tokens'.length < tokens.length) (rest : Repeats step tokens' values out) :
    Repeats step tokens (value :: values) out

/-- What a reader reads again and again is gathered in order. -/
theorem repeatedly_of_repeats {step : Reader (Option α)}
    (repeats : Repeats step tokens values out) :
    repeatedly step tokens = some (values, out) := by
  -- The reader keeps what it has read in reverse, in front of what it started with.
  have steps (earlier : List α) :
      Steps (fun values => return (← step).map (· :: values)) earlier tokens
        (values.reverse ++ earlier) out := by
    induction repeats generalizing earlier with
    | stop stops => exact .stop (by rw [bind_of_eq stops]; rfl)
    | more goes takes _ ih =>
      rw [List.reverse_cons, List.append_assoc]
      exact .more (by rw [bind_of_eq goes]; rfl) takes (ih _)
  rw [repeatedly, bind_of_eq (iterate_of_steps (steps []))]
  simp

/-- Items with a comma between each two of them, each of which takes a token at least. -/
inductive Items (item : Reader α) : List Token → List α → List Token → Prop
  | last {tokens out : List Token} {value : α} (read : item tokens = some (value, out))
    (takes : out.length < tokens.length) (ends : out.head? ≠ some (.symbol ",")) :
    Items item tokens [value] out
  | more {tokens tokens' out : List Token} {value : α} {values : List α}
    (read : item tokens = some (value, .symbol "," :: tokens'))
    (takes : tokens'.length + 1 < tokens.length) (rest : Items item tokens' values out) :
    Items item tokens (value :: values) out

/-- Items with commas between them are read as they stand, without a comma at the end. -/
theorem commaItems_of_items {item : Reader α} (items : Items item tokens values out) :
    commaItems item tokens = some ((values, false), out) := by
  suffices ∀ fuel, tokens.length ≤ fuel →
      commaItemsUpTo item fuel tokens = some ((values, false), out) from this _ (Nat.le_refl _)
  induction items with
  | last read takes ends =>
    intro fuel room
    cases fuel with
    | zero => omega
    | succ fuel =>
      rw [commaItemsUpTo, bind_of_eq read, bind_of_eq (symbol?_of_head?_ne ends)]
      rfl
  | more read takes _ ih =>
    intro fuel room
    cases fuel with
    | zero => omega
    | succ fuel =>
      rw [commaItemsUpTo, bind_of_eq read, bind_of_eq symbol?_self, if_pos rfl,
        bind_of_eq (optionally_of_eq_some (ih fuel (by omega)))]
      rfl

/-- One item without a comma behind it. -/
theorem commaItems_singleton {item : Reader α} {first : Token}
    (read : item (first :: (tokens ++ rest)) = some (value, rest))
    (ends : rest.head? ≠ some (.symbol ",")) :
    commaItems item (first :: (tokens ++ rest)) = some (([value], false), rest) :=
  commaItems_of_items
    (.last read (by simp only [List.length_cons, List.length_append]; omega) ends)

end EntryPoint.Syntax.Reader
