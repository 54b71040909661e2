/-
# Trees that can be outlined

An outline spells every part of an expression out, and all but one kind of part
can always be spelled: an integer with too many digits has no numeral. So an
expression can be outlined exactly if all integers in it are short enough.

## Main definitions

* `Expr.integers` - the integers in an expression.
* `Expr.IsShort` - all of them have a numeral.

## Main results

* `Expr.exists_outline_iff` - exactly such expressions can be outlined.
-/

import EntryPoint.Proofs.Outcome
import EntryPoint.Syntax.Outline

namespace EntryPoint.Syntax

/-! ### Integers -/

mutual

/-- The integers in an expression, in order. -/
def Expr.integers : Expr → List Nat
  | .constant (.integer value) => [value]
  | .constant _ | .name _ => []
  | .attribute value _ => value.integers
  | .subscript value index => value.integers ++ index.integers
  | .call callee args keywords =>
    callee.integers ++ (integersEach args ++ integersKeywords keywords)
  | .starred value => value.integers
  | .tuple elements | .list elements | .set elements => integersEach elements
  | .dict items => integersItems items
  | .listComp element clauses | .setComp element clauses | .generator element clauses =>
    element.integers ++ integersClauses clauses
  | .dictComp key value clauses => key.integers ++ (value.integers ++ integersClauses clauses)
  | .boolean _ operands => integersEach operands
  | .binary left _ right => left.integers ++ right.integers
  | .unary _ operand => operand.integers
  | .compare left rest => left.integers ++ integersComparisons rest
  | .conditional test body orElse => test.integers ++ (body.integers ++ orElse.integers)
  | .lambda parameters body => integersParameters parameters ++ body.integers
  | .named target value => target.integers ++ value.integers
  | .await value => value.integers
  | .yield value => integersOption value
  | .yieldFrom value => value.integers
  | .slice lower upper step =>
    integersOption lower ++ (integersOption upper ++ integersOption step)
  | .formatted value _ spec => value.integers ++ integersOption spec
  | .joined parts => integersEach parts

def integersEach : List Expr → List Nat
  | [] => []
  | first :: rest => first.integers ++ integersEach rest

def integersOption : Option Expr → List Nat
  | none => []
  | some value => value.integers

def integersKeywords : List (Keyword Expr) → List Nat
  | [] => []
  | ⟨_, value⟩ :: rest => value.integers ++ integersKeywords rest

def integersItems : List (Option Expr × Expr) → List Nat
  | [] => []
  | (none, value) :: rest => value.integers ++ integersItems rest
  | (some key, value) :: rest => key.integers ++ (value.integers ++ integersItems rest)

def integersComparisons : List (Comparison × Expr) → List Nat
  | [] => []
  | (_, value) :: rest => value.integers ++ integersComparisons rest

def integersClauses : List (Clause Expr) → List Nat
  | [] => []
  | ⟨_, target, source, conditions⟩ :: rest =>
    target.integers ++ (source.integers ++ (integersEach conditions ++ integersClauses rest))

def integersParameters : Parameters Expr → List Nat
  | ⟨positionOnly, regular, variadic, nameOnly, keywords⟩ =>
    integersParameterList positionOnly ++ (integersParameterList regular ++
      (integersParameterOption variadic ++ (integersParameterList nameOnly ++
        integersParameterOption keywords)))

def integersParameterList : List (Parameter Expr) → List Nat
  | [] => []
  | first :: rest => integersParameter first ++ integersParameterList rest

def integersParameterOption : Option (Parameter Expr) → List Nat
  | none => []
  | some parameter => integersParameter parameter

def integersParameter : Parameter Expr → List Nat
  | ⟨_, annotation, default⟩ => integersOption annotation ++ integersOption default

end

/-- All integers have a numeral. -/
def AreShort (values : List Nat) : Prop :=
  ∀ value ∈ values, value < Nat.pow 10 Text.maxIntegerDigits

variable {values others : List Nat}

theorem areShort_nil : AreShort [] := by
  rintro value ⟨⟩

theorem areShort_append_iff : AreShort (values ++ others) ↔ AreShort values ∧ AreShort others :=
  List.forall_mem_append

/-! ### Outlines -/

/-- A constant is spelled out unless it is an integer without a numeral. -/
theorem Constant.succeedsIff_outlineValue (value : Constant) :
    SucceedsIff (AreShort (Expr.constant value).integers) value.outlineValue := by
  cases value with
  | integer value =>
    rw [Expr.integers, AreShort, List.forall_mem_singleton]
    have numeral : (Constant.integer value).outlineValue =
        if value < Nat.pow 10 Text.maxIntegerDigits then .ok (Text.decimal value)
        else .error .longInteger := rfl
    rw [numeral]
    split
    · rename_i short
      exact .ok _ short
    · rename_i long
      exact .error _ long
  | truth value => cases value <;> exact .ok _ areShort_nil
  | nothing | ellipsis | real _ | imaginary _ | text _ _ | bytes _ => exact .ok _ areShort_nil

mutual

/-- An expression is outlined in each of its uses, read or bound, exactly if its integers have
numerals. -/
theorem Expr.succeedsIff_outlineUse (bound : Bool) :
    (expr : Expr) → SucceedsIff (AreShort expr.integers) (expr.outlineUse bound)
  -- One case for each constructor. A tree is outlined part after part, and its integers are listed
  -- in that order, so each case is a chain of the parts with the integers split the same way.
  | .constant value => by
    simp only [Expr.outlineUse, Constant.outline]
    exact .map value.succeedsIff_outlineValue
  | .name _ => by
    simp only [Expr.outlineUse, Expr.integers]
    exact .ok _ areShort_nil
  | .attribute value _ => by
    simp only [Expr.outlineUse, Expr.integers]
    exact .map (value.succeedsIff_outlineUse false)
  | .subscript value index => by
    simp only [Expr.outlineUse, Expr.integers, areShort_append_iff]
    exact .bind (value.succeedsIff_outlineUse false) fun _ =>
      .map (index.succeedsIff_outlineUse false)
  | .call callee args keywords => by
    simp only [Expr.outlineUse, Expr.integers, areShort_append_iff]
    exact .bind (callee.succeedsIff_outlineUse false) fun _ =>
      .bind (succeedsIff_outlineEach false args) fun _ =>
        .map (succeedsIff_outlineKeywords keywords)
  | .starred value => by
    simp only [Expr.outlineUse, Expr.integers]
    exact .map (value.succeedsIff_outlineUse bound)
  | .tuple elements | .list elements => by
    simp only [Expr.outlineUse, Expr.integers]
    exact .map (succeedsIff_outlineEach bound elements)
  | .set elements | .boolean _ elements | .joined elements => by
    simp only [Expr.outlineUse, Expr.integers]
    exact .map (succeedsIff_outlineEach false elements)
  | .dict items => by
    simp only [Expr.outlineUse, Expr.integers]
    exact .map (succeedsIff_outlineItems items)
  | .listComp element clauses | .setComp element clauses | .generator element clauses => by
    simp only [Expr.outlineUse, Expr.integers, areShort_append_iff]
    exact .bind (element.succeedsIff_outlineUse false) fun _ =>
      .map (succeedsIff_outlineClauses clauses)
  | .dictComp key value clauses => by
    simp only [Expr.outlineUse, Expr.integers, areShort_append_iff]
    exact .bind (key.succeedsIff_outlineUse false) fun _ =>
      .bind (value.succeedsIff_outlineUse false) fun _ => .map (succeedsIff_outlineClauses clauses)
  | .binary left _ right => by
    simp only [Expr.outlineUse, Expr.integers, areShort_append_iff]
    exact .bind (left.succeedsIff_outlineUse false) fun _ =>
      .map (right.succeedsIff_outlineUse false)
  | .unary _ value | .await value | .yieldFrom value => by
    simp only [Expr.outlineUse, Expr.integers]
    exact .map (value.succeedsIff_outlineUse false)
  | .compare left rest => by
    simp only [Expr.outlineUse, Expr.integers, areShort_append_iff]
    exact .bind (left.succeedsIff_outlineUse false) fun _ =>
      .map (succeedsIff_outlineComparisons rest)
  | .conditional test body orElse => by
    simp only [Expr.outlineUse, Expr.integers, areShort_append_iff]
    exact .bind (test.succeedsIff_outlineUse false) fun _ =>
      .bind (body.succeedsIff_outlineUse false) fun _ => .map (orElse.succeedsIff_outlineUse false)
  | .lambda parameters body => by
    simp only [Expr.outlineUse, Expr.integers, areShort_append_iff]
    exact .bind (succeedsIff_outlineParameters parameters) fun _ =>
      .map (body.succeedsIff_outlineUse false)
  | .named target value => by
    simp only [Expr.outlineUse, Expr.integers, areShort_append_iff]
    exact .bind (target.succeedsIff_outlineUse true) fun _ =>
      .map (value.succeedsIff_outlineUse false)
  | .yield value => by
    simp only [Expr.outlineUse, Expr.integers]
    exact .map (succeedsIff_outlineOption "value" value)
  | .slice lower upper step => by
    simp only [Expr.outlineUse, Expr.integers, areShort_append_iff]
    exact .bind (succeedsIff_outlineOption "lower" lower) fun _ =>
      .bind (succeedsIff_outlineOption "upper" upper) fun _ =>
      .map (succeedsIff_outlineOption "step" step)
  | .formatted value _ spec => by
    simp only [Expr.outlineUse, Expr.integers, areShort_append_iff]
    exact .bind (value.succeedsIff_outlineUse false) fun _ =>
      .map (succeedsIff_outlineOption "format_spec" spec)

theorem succeedsIff_outlineEach (bound : Bool) : (elements : List Expr) →
    SucceedsIff (AreShort (integersEach elements)) (outlineEach bound elements)
  | [] => by
    simp only [outlineEach, integersEach]
    exact .ok [] areShort_nil
  | first :: rest => by
    simp only [outlineEach, integersEach, areShort_append_iff]
    exact .bind (first.succeedsIff_outlineUse bound) fun _ =>
      .map (succeedsIff_outlineEach bound rest)

theorem succeedsIff_outlineOption (label : String) : (value : Option Expr) →
    SucceedsIff (AreShort (integersOption value)) (outlineOption label value)
  | none => by
    simp only [outlineOption, integersOption]
    exact .ok [] areShort_nil
  | some value => by
    simp only [outlineOption, integersOption]
    exact .map (value.succeedsIff_outlineUse false)

/-- The items of a dictionary; two stars in front of a value leave its key out. -/
theorem succeedsIff_outlineItems : (items : List (Option Expr × Expr)) →
    SucceedsIff (AreShort (integersItems items)) (outlineItems items)
  | [] => by
    simp only [outlineItems, integersItems]
    exact .ok [] areShort_nil
  | (none, value) :: rest => by
    simp only [outlineItems, integersItems, areShort_append_iff]
    exact .bind (value.succeedsIff_outlineUse false) fun _ => .map (succeedsIff_outlineItems rest)
  | (some key, value) :: rest => by
    simp only [outlineItems, integersItems, areShort_append_iff]
    exact .bind (key.succeedsIff_outlineUse false) fun _ =>
      .bind (value.succeedsIff_outlineUse false) fun _ => .map (succeedsIff_outlineItems rest)

theorem succeedsIff_outlineKeywords : (keywords : List (Keyword Expr)) →
    SucceedsIff (AreShort (integersKeywords keywords)) (outlineKeywords keywords)
  | [] => by
    simp only [outlineKeywords, integersKeywords]
    exact .ok [] areShort_nil
  | ⟨_, value⟩ :: rest => by
    simp only [outlineKeywords, integersKeywords, areShort_append_iff]
    exact .bind (value.succeedsIff_outlineUse false) fun _ =>
      .map (succeedsIff_outlineKeywords rest)

theorem succeedsIff_outlineComparisons : (rest : List (Comparison × Expr)) →
    SucceedsIff (AreShort (integersComparisons rest)) (outlineComparisons rest)
  | [] => by
    simp only [outlineComparisons, integersComparisons]
    exact .ok [] areShort_nil
  | (_, value) :: rest => by
    simp only [outlineComparisons, integersComparisons, areShort_append_iff]
    exact .bind (value.succeedsIff_outlineUse false) fun _ =>
      .map (succeedsIff_outlineComparisons rest)

/-- The clauses of a comprehension, each with a target, a source and conditions. -/
theorem succeedsIff_outlineClauses : (clauses : List (Clause Expr)) →
    SucceedsIff (AreShort (integersClauses clauses)) (outlineClauses clauses)
  | [] => by
    simp only [outlineClauses, integersClauses]
    exact .ok [] areShort_nil
  | ⟨_, target, source, conditions⟩ :: rest => by
    simp only [outlineClauses, integersClauses, areShort_append_iff]
    exact .bind (target.succeedsIff_outlineUse true) fun _ =>
      .bind (source.succeedsIff_outlineUse false) fun _ =>
      .bind (succeedsIff_outlineEach false conditions) fun _ =>
      .map (succeedsIff_outlineClauses rest)

/-- Parameters are outlined kind by kind. -/
theorem succeedsIff_outlineParameters : (parameters : Parameters Expr) →
    SucceedsIff (AreShort (integersParameters parameters)) (outlineParameters parameters)
  | ⟨positionOnly, regular, variadic, nameOnly, keywords⟩ => by
    simp only [outlineParameters, integersParameters, areShort_append_iff]
    exact .bind (succeedsIff_outlineParameterList positionOnly) fun _ =>
      .bind (succeedsIff_outlineParameterList regular) fun _ =>
      .bind (succeedsIff_outlineParameterOption variadic) fun _ =>
      .bind (succeedsIff_outlineParameterList nameOnly) fun _ =>
      .map (succeedsIff_outlineParameterOption keywords)

theorem succeedsIff_outlineParameterList : (parameters : List (Parameter Expr)) →
    SucceedsIff (AreShort (integersParameterList parameters)) (outlineParameterList parameters)
  | [] => by
    simp only [outlineParameterList, integersParameterList]
    exact .ok [] areShort_nil
  | first :: rest => by
    simp only [outlineParameterList, integersParameterList, areShort_append_iff]
    exact .bind (succeedsIff_outlineParameter first) fun _ =>
      .map (succeedsIff_outlineParameterList rest)

theorem succeedsIff_outlineParameterOption : (parameter : Option (Parameter Expr)) →
    SucceedsIff (AreShort (integersParameterOption parameter)) (outlineParameterOption parameter)
  | none => by
    simp only [outlineParameterOption, integersParameterOption]
    exact .ok none areShort_nil
  | some parameter => by
    simp only [outlineParameterOption, integersParameterOption]
    exact .map (succeedsIff_outlineParameter parameter)

/-- A parameter has no integers but those of its annotation and its default. -/
theorem succeedsIff_outlineParameter : (parameter : Parameter Expr) →
    SucceedsIff (AreShort (integersParameter parameter)) (outlineParameter parameter)
  | ⟨_, annotation, default⟩ => by
    simp only [outlineParameter, integersParameter, areShort_append_iff]
    exact .bind (succeedsIff_outlineOption "annotation" annotation) fun _ =>
      .map (succeedsIff_outlineDefault default)

theorem succeedsIff_outlineDefault : (default : Option Expr) →
    SucceedsIff (AreShort (integersOption default)) (outlineDefault default)
  | none => by
    simp only [outlineDefault, integersOption]
    exact .ok none areShort_nil
  | some value => by
    simp only [outlineDefault, integersOption]
    exact .map (value.succeedsIff_outlineUse false)

end

/-- An expression can be outlined exactly if all integers in it have a numeral. -/
theorem Expr.exists_outline_iff (expr : Expr) :
    (∃ text, expr.outline = .ok text) ↔ AreShort expr.integers :=
  expr.succeedsIff_outlineUse false

end EntryPoint.Syntax
