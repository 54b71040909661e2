/-
# Values without operators

A value that neither opens with an operator nor is followed by one passes through
the readers of all operators as it is, from the tightest to the loosest.

## Main definitions

* `opensPrimary` - tokens that open with a value and no operator.
* `endsExpression` - tokens that no expression goes on with.

## Main results

* `expression_of_primary` - a value is read as an expression.
-/

import EntryPoint.Proofs.Syntax.Reader
import EntryPoint.Syntax.Reader.Expression

namespace EntryPoint.Syntax

open Reader

variable {inner : Grammar} {tokens tokens' rest : List Token} {value : Expr} {symbol word : String}

/-- Whether tokens open with a value that no operator stands in front of. -/
def opensPrimary : List Token → Bool
  | .name _ _ :: _ | .literal _ :: _ | .number _ :: _ => true
  | .keyword word :: _ => word = "None"
  | .symbol symbol :: _ => symbol = "(" || symbol = "["
  | _ => false

/-- The symbols that may stand behind an expression. -/
def closingSymbols : List String := [")", "]", "\x7d", ",", ":", "="]

/-- Whether no expression goes on with tokens. -/
def endsExpression : List Token → Bool
  | [] | .newline :: _ => true
  | .symbol symbol :: _ => closingSymbols.contains symbol
  | _ => false

/-! ### What does not open a value -/

/-- What follows does not change what tokens open with. -/
theorem opensPrimary_append (opens : opensPrimary tokens) (rest : List Token) :
    opensPrimary (tokens ++ rest) := by
  cases tokens with
  | nil => cases opens
  | cons first others => cases first <;> exact opens

theorem ne_nil_of_opensPrimary (opens : opensPrimary tokens) : tokens ≠ [] := by
  rintro rfl
  cases opens

theorem symbol?_of_opensPrimary (opens : opensPrimary tokens)
    (other : symbol ≠ "(" ∧ symbol ≠ "[") : symbol? symbol tokens = some (false, tokens) := by
  refine symbol?_of_head?_ne fun same => ?_
  obtain ⟨rest, rfl⟩ := List.head?_eq_some_iff.mp same
  simp [opensPrimary, other] at opens

/-- Of all words `None` alone opens a primary. -/
theorem word?_of_opensPrimary (opens : opensPrimary tokens) (other : word ≠ "None") :
    word? word tokens = some (false, tokens) := by
  refine word?_of_head?_ne fun same => ?_
  obtain ⟨rest, rfl⟩ := List.head?_eq_some_iff.mp same
  exact other (of_decide_eq_true opens)

/-! ### What does not go on -/

/-- No other symbol comes next where an expression ends. -/
theorem symbol?_of_endsExpression (ends : endsExpression tokens)
    (other : symbol ∉ closingSymbols) : symbol? symbol tokens = some (false, tokens) := by
  refine symbol?_of_head?_ne fun same => ?_
  obtain ⟨rest, rfl⟩ := List.head?_eq_some_iff.mp same
  exact other (List.contains_iff_mem.mp ends)

theorem word?_of_endsExpression (ends : endsExpression tokens) :
    word? word tokens = some (false, tokens) := by
  refine word?_of_head?_ne fun same => ?_
  obtain ⟨rest, rfl⟩ := List.head?_eq_some_iff.mp same
  cases ends

/-- No operator comes next where an expression ends. -/
theorem operator?_of_endsExpression {operators : List (String × BinaryOperator)}
    (ends : endsExpression tokens)
    (others : ∀ symbol ∈ closingSymbols, operators.lookup symbol = none) :
    operator? operators tokens = some (none, tokens) := by
  unfold operator?
  split
  · rename_i text rest
    rw [others text (List.contains_iff_mem.mp ends)]
  · rfl

theorem comparison?_of_endsExpression (ends : endsExpression tokens) :
    comparison? tokens = some (none, tokens) := by
  have others : ∀ symbol ∈ closingSymbols, comparisonSymbols.lookup symbol = none := by decide
  unfold comparison?
  rw [ite_of_false (word?_of_endsExpression ends), ite_of_false (word?_of_endsExpression ends),
    ite_of_false (word?_of_endsExpression ends)]
  split
  · rename_i text rest
    rw [others text (List.contains_iff_mem.mp ends)]
  · rfl

/-- Nor a trailer that would go on with its value. -/
theorem trailer_of_endsExpression (ends : endsExpression tokens) :
    trailer inner value tokens = some (none, tokens) := by
  unfold trailer
  rw [ite_of_false (symbol?_of_endsExpression ends (by decide)),
    ite_of_false (symbol?_of_endsExpression ends (by decide)),
    ite_of_false (symbol?_of_endsExpression ends (by decide))]
  rfl

theorem clauses_of_endsExpression (ends : endsExpression tokens) :
    clauses inner tokens = some ([], tokens) := by
  refine repeatedly_of_repeats (.stop ?_)
  unfold clause?
  rw [bind_of_eq (word?_of_endsExpression ends), ite_of_false (word?_of_endsExpression ends)]
  rfl

/-! ### The readers of operators -/

/-- A chain without operators is its only operand. -/
theorem leftChain_of_eq {operators : List (String × BinaryOperator)} {operand : Reader Expr}
    (read : operand tokens = some (value, rest))
    (stops : operator? operators rest = some (none, rest)) :
    leftChain operators operand tokens = some (value, rest) := by
  rw [leftChain, bind_of_eq read]
  exact iterate_of_steps (.stop (by rw [bind_of_eq stops]; rfl))

/-- And so is a chain without words. -/
theorem wordChain_of_eq {operator : BooleanOperator} {operand : Reader Expr}
    (read : operand tokens = some (value, rest)) (ends : endsExpression rest) :
    wordChain word operator operand tokens = some (value, rest) := by
  rw [wordChain, bind_of_eq read, bind_of_eq (repeatedly_of_repeats (.stop ?_))]
  · rfl
  · rw [bind_of_eq (word?_of_endsExpression ends)]
    rfl

/-- A primary without what could go on with it is read alike on all levels of operators. -/
theorem power_of_primary (opens : opensPrimary tokens)
    (read : primary inner tokens = some (value, rest)) (ends : endsExpression rest) :
    power inner tokens = some (value, rest) := by
  rw [power, ite_of_false (word?_of_opensPrimary opens (by decide)), bind_of_eq read]
  dsimp only
  rw [bind_of_eq (symbol?_of_endsExpression ends (by decide))]
  rfl

theorem factor_of_primary (opens : opensPrimary tokens)
    (read : primary inner tokens = some (value, rest)) (ends : endsExpression rest) :
    factor inner tokens = some (value, rest) := by
  rw [factor, ite_of_false (symbol?_of_opensPrimary opens (by decide)),
    ite_of_false (symbol?_of_opensPrimary opens (by decide)),
    ite_of_false (symbol?_of_opensPrimary opens (by decide))]
  exact power_of_primary opens read ends

theorem bitOr_of_primary (opens : opensPrimary tokens)
    (read : primary inner tokens = some (value, rest)) (ends : endsExpression rest) :
    bitOr inner tokens = some (value, rest) := by
  -- Level by level, no operator of it stands behind the value.
  have product : product inner tokens = some (value, rest) :=
    leftChain_of_eq (factor_of_primary opens read ends)
      (operator?_of_endsExpression ends (by decide))
  have sum : sum inner tokens = some (value, rest) :=
    leftChain_of_eq product (operator?_of_endsExpression ends (by decide))
  have shift : shift inner tokens = some (value, rest) :=
    leftChain_of_eq sum (operator?_of_endsExpression ends (by decide))
  have bitAnd : bitAnd inner tokens = some (value, rest) :=
    leftChain_of_eq shift (operator?_of_endsExpression ends (by decide))
  have bitXor : bitXor inner tokens = some (value, rest) :=
    leftChain_of_eq bitAnd (operator?_of_endsExpression ends (by decide))
  exact leftChain_of_eq bitXor (operator?_of_endsExpression ends (by decide))

theorem comparison_of_primary (opens : opensPrimary tokens)
    (read : primary inner tokens = some (value, rest)) (ends : endsExpression rest) :
    comparison inner tokens = some (value, rest) := by
  rw [comparison, bind_of_eq (bitOr_of_primary opens read ends),
    bind_of_eq (repeatedly_of_repeats (.stop ?_))]
  · rfl
  · rw [bind_of_eq (comparison?_of_endsExpression ends)]
    rfl

theorem disjunction_of_primary (opens : opensPrimary tokens)
    (read : primary inner tokens = some (value, rest)) (ends : endsExpression rest) :
    disjunction inner tokens = some (value, rest) := by
  have inversion : inversion inner tokens = some (value, rest) := by
    rw [inversion, ite_of_false (word?_of_opensPrimary opens (by decide))]
    exact comparison_of_primary opens read ends
  exact wordChain_of_eq (wordChain_of_eq inversion ends) ends

/-- A value that no operator stands in front of or behind is an expression. -/
theorem expression_of_primary (opens : opensPrimary tokens)
    (read : primary inner tokens = some (value, rest)) (ends : endsExpression rest) :
    expression inner tokens = some (value, rest) := by
  rw [expression, ite_of_false (word?_of_opensPrimary opens (by decide)),
    bind_of_eq (disjunction_of_primary opens read ends), bind_of_eq (word?_of_endsExpression ends)]
  rfl

/-! ### What is no expression -/

/-- Without an operand there is no chain. -/
theorem leftChain_eq_none {operators : List (String × BinaryOperator)} {operand : Reader Expr}
    (failed : operand tokens = none) : leftChain operators operand tokens = none := by
  rw [leftChain, run_bind, failed, Option.bind_none]

/-- No expression opens with a point or a closing bracket. -/
theorem expression_eq_none (mark : symbol = "." ∨ symbol = "]") :
    expression inner (.symbol symbol :: rest) = none := by
  -- No value starts with such a mark, so the innermost reader fails, and with it all around it.
  have primary : primary inner (.symbol symbol :: rest) = none := by
    rcases mark with rfl | rfl <;> rfl
  have factor : factor inner (.symbol symbol :: rest) = none := by
    rw [factor, ite_of_false (symbol?_of_head?_ne (by rcases mark with rfl | rfl <;> simp)),
      ite_of_false (symbol?_of_head?_ne (by rcases mark with rfl | rfl <;> simp)),
      ite_of_false (symbol?_of_head?_ne (by rcases mark with rfl | rfl <;> simp)), power,
      ite_of_false (word?_of_head?_ne (by simp)), run_bind, primary, Option.bind_none]
  have bitOr : bitOr inner (.symbol symbol :: rest) = none :=
    leftChain_eq_none (leftChain_eq_none (leftChain_eq_none (leftChain_eq_none
      (leftChain_eq_none (leftChain_eq_none factor)))))
  have disjunction : disjunction inner (.symbol symbol :: rest) = none := by
    rw [disjunction, wordChain, run_bind, conjunction, wordChain, run_bind, inversion,
      ite_of_false (word?_of_head?_ne (by simp)), comparison, run_bind, bitOr]
    rfl
  rw [expression, ite_of_false (word?_of_head?_ne (by simp)), run_bind, disjunction,
    Option.bind_none]

end EntryPoint.Syntax
