/-
# Chains and their links

A chain is its base with links around it, the first one innermost. Folding calls
into a chain succeeds exactly when each call is one of a bare name, and then loses
nothing: the links can be read back from the outside.

## Main definitions

* `Link` - a call by the name of what is called, whatever it is made on.
* `Expr.extend` - a link made on a receiver.
* `Expr.unchain` - an expression taken apart into its base and its links.

## Main results

* `chain_eq_ok_iff` - chains are the bases extended by links.
* `unchain_extend_name` - a chain on a name gives back that name and all links.
* `foldl_extend_name_inj` - so chains on names are equal only link by link.
-/

import EntryPoint.Proofs.Outcome
import EntryPoint.Chain

namespace EntryPoint

open Syntax

/-- A call by the name of what is called. -/
structure Link where
  method : String
  args : List Expr
  keywords : List (Keyword Expr)

/-- The call of the bare name. -/
def Link.toExpr (link : Link) : Expr :=
  .call (.name link.method) link.args link.keywords

namespace Syntax.Expr

/-- A link made on a receiver. -/
def extend (receiver : Expr) (link : Link) : Expr :=
  .call (.attribute receiver link.method) link.args link.keywords

/-- An expression taken apart into its base and its links in order. -/
def unchain : Expr → Expr × List Link
  | .call (.attribute receiver method) args keywords =>
    ((unchain receiver).1, (unchain receiver).2 ++ [⟨method, args, keywords⟩])
  | base => (base, [])

@[simp] theorem unchain_name (id : String) : (Expr.name id).unchain = (.name id, []) := by
  rw [unchain]
  simp

@[simp] theorem unchain_extend (receiver : Expr) (link : Link) :
    (receiver.extend link).unchain =
      (receiver.unchain.1, receiver.unchain.2 ++ [link]) := by
  rw [extend, unchain]

theorem unchain_foldl_extend (links : List Link) (base : Expr) :
    (links.foldl extend base).unchain = (base.unchain.1, base.unchain.2 ++ links) := by
  induction links generalizing base with
  | nil => simp
  | cons first rest ih => rw [List.foldl_cons, ih]; simp

/-- A chain on a name gives back that name and all links. -/
theorem unchain_extend_name (links : List Link) (id : String) :
    (links.foldl extend (.name id)).unchain = (.name id, links) := by
  rw [unchain_foldl_extend, unchain_name, List.nil_append]

/-- Chains on names differ in the name or in some link. -/
theorem foldl_extend_name_inj {links links' : List Link} {id id' : String}
    (same : links.foldl extend (.name id) = links'.foldl extend (.name id')) :
    id = id' ∧ links = links' := by
  have unchained := congrArg unchain same
  rw [unchain_extend_name, unchain_extend_name] at unchained
  obtain ⟨base, links⟩ := Prod.ext_iff.mp unchained
  exact ⟨Expr.name.inj base, links⟩

end Syntax.Expr

/-! ### Folding calls -/

variable {calls : List Expr} {base chained : Expr}

/-- What is not a call of a bare name makes no link. -/
theorem unchainable_ne_ok (expr : Expr) : unchainable expr ≠ .ok chained := by
  intro succeeds
  unfold unchainable at succeeds
  split at succeeds <;>
  · obtain ⟨found, -, failed⟩ := bind_eq_ok_iff.mp succeeds
    cases failed

theorem attach_eq_ok_iff {call : Expr} :
    attach base call = .ok chained ↔
      ∃ link : Link, call = link.toExpr ∧ chained = base.extend link := by
  constructor
  · intro succeeds
    unfold attach at succeeds
    split at succeeds
    · rename_i method args keywords
      cases succeeds
      exact ⟨⟨method, args, keywords⟩, rfl, rfl⟩
    -- Whatever is no call of a name stops the chain, with an exception of its own or another one.
    · exact absurd succeeds (unchainable_ne_ok _)
  · rintro ⟨link, rfl, rfl⟩
    rfl

/-- Chains are the bases extended by links. -/
theorem chain_eq_ok_iff :
    chain calls base = .ok chained ↔
      ∃ links : List Link,
        calls = links.map Link.toExpr ∧ chained = links.foldl Expr.extend base := by
  -- The base is the chain so far and grows with every call.
  induction calls generalizing base with
  | nil =>
    constructor
    · intro succeeds
      cases succeeds
      exact ⟨[], rfl, rfl⟩
    · rintro ⟨links, none, rfl⟩
      obtain rfl := List.map_eq_nil_iff.mp none.symm
      rfl
  | cons first rest ih =>
    -- One step of the chain, and then the rest of it from what this step made.
    have step : chain (first :: rest) base = attach base first >>= chain rest := rfl
    rw [step, bind_eq_ok_iff]
    constructor
    · rintro ⟨extended, attached, succeeds⟩
      obtain ⟨link, rfl, rfl⟩ := attach_eq_ok_iff.mp attached
      obtain ⟨links, rfl, rfl⟩ := ih.mp succeeds
      exact ⟨link :: links, rfl, rfl⟩
    · rintro ⟨links, same, rfl⟩
      obtain ⟨link, links, rfl, rfl, rfl⟩ := List.map_eq_cons_iff.mp same.symm
      exact ⟨_, attach_eq_ok_iff.mpr ⟨link, rfl, rfl⟩, ih.mpr ⟨links, rfl, rfl⟩⟩

/-- Calls that are links extend any base. -/
theorem chain_links (links : List Link) :
    chain (links.map Link.toExpr) base = .ok (links.foldl Expr.extend base) :=
  chain_eq_ok_iff.mpr ⟨links, rfl, rfl⟩

end EntryPoint
