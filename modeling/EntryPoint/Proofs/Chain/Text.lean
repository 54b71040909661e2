/-
# Texts of chains

A chain prints as its base with every call behind a point, each as it prints by
itself: neither the receivers in between nor the arguments look different in a
chain. Taking as many links off as there are calls gives back the base and every
call.

A call of anything but a bare name makes no chain. The failure names what is called
by its outline, so it is reported as such if that outline exists.

## Main definitions

* `Call.isOfName` - whether a bare name is called.
* `Expr.unlink?` - an expression with its last links taken off.
* `chainText` - the text of a base with calls behind points.

## Main results

* `failsAs_chain_iff` - when folding calls into a chain is reported as a failure.
* `unlink?_foldl_extend` - the links of a chain.
* `text_foldl_extend` - the text of a chain.
* `chain_calls` - what folding calls into a chain gives.
-/

import EntryPoint.Proofs.Chain
import EntryPoint.Proofs.Failure
import EntryPoint.Proofs.Syntax.Outline
import EntryPoint.Syntax.Printer.Expression
import Mathlib.Data.List.Induction

namespace EntryPoint

open Syntax

variable {base chained : Expr} {calls : List Call}

/-! ### Calls of bare names -/

/-- Whether a bare name is called. -/
def Call.isOfName (call : Call) : Bool :=
  match call.callee with
  | .name _ => true
  | _ => false

/-- Calls of bare names are links. -/
theorem Call.isOfName_iff {call : Call} :
    call.isOfName ↔ ∃ link : Link, call.toExpr = link.toExpr := by
  obtain ⟨callee, args, keywords⟩ := call
  constructor
  · intro named
    cases callee with
    | name method => exact ⟨⟨method, args, keywords⟩, rfl⟩
    | _ => cases named
  · rintro ⟨link, same⟩
    cases same
    rfl

/-- A call of anything else is refused wherever it stands. -/
theorem Call.attach_toExpr {call : Call} (unnamed : call.isOfName = false) :
    attach base call.toExpr = unchainable call.toExpr := by
  obtain ⟨callee, args, keywords⟩ := call
  cases callee with
  | name method => cases unnamed
  | _ => rfl

theorem exists_links_iff : (∃ links : List Link, calls.map Call.toExpr = links.map Link.toExpr) ↔
    ∀ call ∈ calls, call.isOfName := by
  induction calls with
  | nil => exact iff_of_true ⟨[], rfl⟩ (by rintro call ⟨⟩)
  | cons first calls ih =>
    rw [List.forall_mem_cons, ← ih, Call.isOfName_iff]
    constructor
    · rintro ⟨links, same⟩
      obtain ⟨link, links, rfl, here, behind⟩ := List.map_eq_cons_iff.mp same.symm
      exact ⟨⟨link, here.symm⟩, links, behind.symm⟩
    · rintro ⟨⟨link, here⟩, links, behind⟩
      exact ⟨link :: links, by rw [List.map_cons, List.map_cons, here, behind]⟩

/-- Calls of bare names make a chain, and no others. -/
theorem exists_chain_iff : (∃ chained, chain (calls.map Call.toExpr) base = .ok chained) ↔
    ∀ call ∈ calls, call.isOfName := by
  rw [← exists_links_iff]
  constructor
  · rintro ⟨chained, succeeds⟩
    obtain ⟨links, same, -⟩ := chain_eq_ok_iff.mp succeeds
    exact ⟨links, same⟩
  · rintro ⟨links, same⟩
    exact ⟨_, chain_eq_ok_iff.mpr ⟨links, same, rfl⟩⟩

/-- A call of anything else is reported if what is called can be outlined. -/
theorem failsAs_unchainable_iff {call : Call} :
    FailsAs .invariant (unchainable call.toExpr) ↔ AreShort call.callee.integers := by
  rw [← Expr.exists_outline_iff]
  change FailsAs .invariant (orUnprintable call.callee.outline >>= fun found => _) ↔ _
  cases call.callee.outline with
  | error unprintable =>
    refine iff_of_false ?_ (by rintro ⟨text, ⟨⟩⟩)
    rintro ⟨message, ⟨⟩⟩
  | ok found => exact iff_of_true ⟨_, rfl⟩ ⟨found, rfl⟩

/-- A call of what cannot be outlined is not reported. -/
theorem unchainable_of_not_areShort {call : Call} (endless : ¬AreShort call.callee.integers) :
    unchainable call.toExpr = failUnforeseen .value := by
  rw [← Expr.exists_outline_iff] at endless
  change (orUnprintable call.callee.outline >>= fun found => _) = _
  cases outlined : call.callee.outline with
  | error unprintable => rfl
  | ok found => exact absurd ⟨found, outlined⟩ endless

/-- A fold ends at the first call of anything but a bare name, whatever stands behind it. -/
theorem chain_eq_unchainable {call : Call} (found : calls.find? (!·.isOfName) = some call) :
    chain (calls.map Call.toExpr) base = unchainable call.toExpr := by
  induction calls generalizing base with
  | nil => cases found
  | cons first calls ih =>
    have step : chain ((first :: calls).map Call.toExpr) base =
        attach base first.toExpr >>= chain (calls.map Call.toExpr) := rfl
    rw [List.find?_cons] at found
    rw [step]
    -- The calls before the first that is no name are attached, and that one is refused.
    cases named : first.isOfName with
    | true =>
      obtain ⟨link, same⟩ := Call.isOfName_iff.mp named
      rw [named] at found
      rw [attach_eq_ok_iff.mpr ⟨link, same, rfl⟩]
      exact ih found
    | false =>
      rw [named] at found
      obtain rfl := Option.some.inj found
      rw [Call.attach_toExpr named]
      cases refused : unchainable first.toExpr with
      | error fault => rfl
      | ok extended => exact absurd refused (unchainable_ne_ok _)

/-- What is reported is the first call of anything but a bare name. -/
theorem failsAs_chain_iff :
    FailsAs .invariant (chain (calls.map Call.toExpr) base) ↔
      ∃ call, calls.find? (!·.isOfName) = some call ∧ AreShort call.callee.integers := by
  cases found : calls.find? (!·.isOfName) with
  | none =>
    have named : ∀ call ∈ calls, call.isOfName := by simpa using found
    obtain ⟨chained, succeeds⟩ := exists_chain_iff.mpr named
    rw [succeeds]
    exact iff_of_false (not_failsAs_ok chained) (by rintro ⟨call, ⟨⟩, -⟩)
  | some call =>
    rw [chain_eq_unchainable found, failsAs_unchainable_iff]
    simp

/-! ### Links of chains -/

namespace Syntax.Expr

/-- The last link of an expression, and what it is made on. -/
def lastLink? : Expr → Option (Expr × Link)
  | .call (.attribute receiver method) args keywords => some (receiver, ⟨method, args, keywords⟩)
  | _ => none

/-- An expression with its last links taken off, as many as asked for, and those links in order. -/
def unlink? : Nat → Expr → Option (Expr × List Link)
  | 0, base => some (base, [])
  | count + 1, expr => do
    let (receiver, last) ← expr.lastLink?
    let (base, links) ← unlink? count receiver
    some (base, links ++ [last])

/-- Taking as many links off a chain as were put on gives back the base and the links. -/
theorem unlink?_foldl_extend (links : List Link) (base : Expr) :
    (links.foldl extend base).unlink? links.length = some (base, links) := by
  induction links using List.reverseRecOn with
  | nil => rfl
  | append_singleton links last ih =>
    rw [List.foldl_append, List.foldl_cons, List.foldl_nil, List.length_append,
      List.length_singleton, unlink?, extend, lastLink?]
    simp [ih]

/-! ### Texts of chains -/

/-- The text of an expression in front of a point. -/
def receiverText (base : Expr) : Except Unprintable String := do
  let text ← base.print false Level.atom
  return text ++ (if base.needsBlankBeforePoint then " " else "")

/-- A link prints as its call, behind the receiver and a point. -/
theorem print_extend (place : Level) (link : Link) : (base.extend link).print false place = do
    let receiver ← base.receiverText
    let call ← link.toExpr.text
    return receiver ++ "." ++ call := by
  unfold extend receiverText Link.toExpr text
  simp only [Expr.print]
  -- Both print the base, the arguments and the keywords in this order, and stop at the same one.
  cases base.print false Level.atom with
  | error unprintable => rfl
  | ok receiver =>
    cases printAll false link.args with
    | error unprintable => rfl
    | ok args =>
      cases printKeywords false link.keywords with
      | error unprintable => rfl
      | ok keywords => simp [bind, Except.bind, pure, Except.pure, String.append_assoc]

/-- A call stands in front of a point as it prints by itself. -/
theorem receiverText_extend (link : Link) :
    (base.extend link).receiverText = (base.extend link).text := by
  have called : (base.extend link).needsBlankBeforePoint = false := rfl
  rw [receiverText, text, called, print_extend, print_extend]
  simp

end Syntax.Expr

/-- The text of a base with calls behind points. -/
def chainText (base : Expr) (calls : List Expr) : Except Unprintable String := do
  let receiver ← base.receiverText
  let texts ← calls.mapM Expr.text
  return receiver ++ String.join (texts.map ("." ++ ·))

theorem receiverText_foldl_extend (links : List Link) (base : Expr) :
    (links.foldl Expr.extend base).receiverText = chainText base (links.map Link.toExpr) := by
  -- The base is the chain so far and grows with every link.
  induction links generalizing base with
  | nil => simp [chainText]
  | cons first links ih =>
    rw [List.foldl_cons, ih, chainText, Expr.receiverText_extend, Expr.text, Expr.print_extend,
      chainText]
    simp only [List.map_cons, List.mapM_cons, bind_assoc, pure_bind, String.join_cons,
      String.append_assoc]

/-- A chain with a link prints as its base with every call behind a point. -/
theorem text_foldl_extend {links : List Link} (linked : links ≠ []) (base : Expr) :
    (links.foldl Expr.extend base).text = chainText base (links.map Link.toExpr) := by
  rw [← receiverText_foldl_extend]
  obtain ⟨front, last, rfl⟩ := (List.eq_nil_or_concat links).resolve_left linked
  rw [List.concat_eq_append, List.foldl_append, List.foldl_cons, List.foldl_nil,
    Expr.receiverText_extend]

/-! ### Folding calls -/

/-- Calls make a chain exactly if all are calls of bare names, and a failure is reported exactly if
the first one that is not can be outlined. A chain prints as its base with every call behind a
point, and gives back the base and every call when it is taken apart. -/
theorem chain_calls (calls : List Call) (base : Expr) :
    ((∃ chained, chain (calls.map Call.toExpr) base = .ok chained) ↔
      ∀ call ∈ calls, call.isOfName) ∧
    (FailsAs .invariant (chain (calls.map Call.toExpr) base) ↔
      ∃ call, calls.find? (!·.isOfName) = some call ∧ AreShort call.callee.integers) ∧
    ∀ chained, chain (calls.map Call.toExpr) base = .ok chained →
      (calls ≠ [] → chained.text = chainText base (calls.map Call.toExpr)) ∧
      ∃ links : List Link, chained.unlink? calls.length = some (base, links) ∧
        calls.map Call.toExpr = links.map Link.toExpr := by
  refine ⟨exists_chain_iff, failsAs_chain_iff, fun chained succeeds => ?_⟩
  obtain ⟨links, same, rfl⟩ := chain_eq_ok_iff.mp succeeds
  have length : calls.length = links.length := by simpa using congrArg List.length same
  refine ⟨fun called => ?_, links, length ▸ Expr.unlink?_foldl_extend links base, same⟩
  have linked : links ≠ [] := by
    -- Without calls the base is printed as it stands by itself, and not as a receiver.
    rintro rfl
    exact called (List.map_eq_nil_iff.mp same)
  rw [same, text_foldl_extend linked]

/-- A call with arguments of every kind, and one without. -/
def spreadCalls : List Call :=
  [.ofName "f" [.constant (.integer 1), .starred (.name "a")]
      [⟨some "k", .constant (.integer 2)⟩, ⟨none, .name "d"⟩],
    .ofName "g" [] []]

theorem chain_calls_spread : (∀ call ∈ spreadCalls, call.isOfName) ∧ spreadCalls ≠ [] ∧
    ∃ chained, chain (spreadCalls.map Call.toExpr) (.constant (.integer 1)) = .ok chained ∧
      chained.text = .ok "1 .f(1, *a, k=2, **d).g()" ∧
      ∃ links : List Link, chained.unlink? 2 = some (.constant (.integer 1), links) ∧
        spreadCalls.map Call.toExpr = links.map Link.toExpr := by
  obtain ⟨makes, -, gives⟩ := chain_calls spreadCalls (.constant (.integer 1))
  have named : ∀ call ∈ spreadCalls, call.isOfName := by decide
  obtain ⟨chained, succeeds⟩ := makes.mpr named
  obtain ⟨printed, links⟩ := gives chained succeeds
  have called : spreadCalls ≠ [] := List.cons_ne_nil _ _
  refine ⟨named, called, chained, succeeds, ?_, links⟩
  rw [printed called]
  decide +kernel

/-- A call of an integer that has no numeral. -/
def endlessCall : Call :=
  { callee := .constant (.integer (Nat.pow 10 Text.maxIntegerDigits)) }

/-- Such a call is none of a bare name, and yet it is not reported as a failure. -/
theorem chain_of_endless : endlessCall.isOfName = false ∧
    chain [endlessCall.toExpr] (.name "x") = failUnforeseen .value ∧
    ¬FailsAs .invariant (chain [endlessCall.toExpr] (.name "x")) := by
  have unspelled : endlessCall.callee.outline = .error .longInteger := by
    unfold endlessCall Expr.outline
    simp only [Expr.outlineUse, Constant.outline, Constant.outlineValue, Constant.print,
      Nat.lt_irrefl, if_false]
    rfl
  have stops : chain [endlessCall.toExpr] (.name "x") = failUnforeseen .value := by
    change attach (.name "x") endlessCall.toExpr >>= pure = _
    rw [bind_pure, Call.attach_toExpr rfl]
    change (orUnprintable endlessCall.callee.outline >>= fun found => _) = _
    rw [unspelled]
    rfl
  refine ⟨rfl, stops, ?_⟩
  rintro ⟨message, failed⟩
  cases stops.symm.trans failed

end EntryPoint
