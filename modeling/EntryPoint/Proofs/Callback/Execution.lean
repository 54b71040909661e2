/-
# Running callbacks

A callback of one parameter takes a value apart and calls what its names lead to.
Values from outside are opaque: they are passed on and never looked into. A run
leaves behind the calls that it made, in order, and what stopped it.

A name that a function binds anywhere is local to all of it, and reading it
before it is bound stops the run. Any other name leads out of the function. One
name stands for a constant wherever it is read: whether the program is debugged. A
function that binds this name is not compiled, and what it stands for cannot be
called.

A match statement tries its arms in order. The pattern of a mapping matches when
all its keys are present; it binds what its captures stand for, and what is left
under the name for the rest.

Functions are run as trees, so that names are compared as they stand in them. How a
value is shown as a text is not known here, and it may fail.

## Main definitions

* `Mapping`, `Datum` - the values that a callback handles.
* `debugName` - the name of the constant.
* `Pattern.bindings` - what a pattern binds when it matches a value.
* `runBody`, `runFunction` - the run of statements and of a function.
-/

import EntryPoint.Proofs.Syntax.Scope

namespace EntryPoint.Execution

open Syntax

variable {V : Type}

/-! ### Values -/

/-- A mapping: values by texts, each of which occurs once. -/
structure Mapping (V : Type) where
  items : List (String × V)
  nodup : (items.map Prod.fst).Nodup

namespace Mapping

/-- The keys of a mapping in order. -/
def keys (mapping : Mapping V) : List String :=
  mapping.items.map Prod.fst

/-- The value of a key. -/
def get? (mapping : Mapping V) (key : String) : Option V :=
  mapping.items.lookup key

/-- The items of a mapping under other keys than those given. -/
def without (mapping : Mapping V) (keys : List String) : Mapping V where
  items := mapping.items.filter fun item => !keys.contains item.1
  nodup := mapping.nodup.sublist (List.filter_sublist.map _)

end Mapping

/-- A value that a callback handles: one from outside that is no mapping, a mapping, a text, what a
name outside of the function leads to, or the constant that says whether the program is debugged. -/
inductive Datum (V : Type)
  | given (value : V)
  | mapping (items : Mapping V)
  | text (value : String)
  | outer (name : String)
  | debugged

/-- Whether a value may be called. A text and a truth value never are. -/
def Datum.isCallable : Datum V → Bool
  | .text _ | .debugged => false
  | .given _ | .mapping _ | .outer _ => true

/-- The name of the constant that says whether the program is debugged. -/
def debugName : String := "__debug__"

/-- A call: what is called, with its arguments. -/
structure Invocation (V : Type) where
  callee : Datum V
  args : List (Datum V)

/-- What stops a run: an exception that a call made, a name that is read before it is bound, a value
that is called and cannot be, a value that cannot be shown, a function that is not compiled, or code
without a meaning here, because it is malformed or because no callback consists of such code. -/
inductive Halt (V : Type)
  | raised (exception : Invocation V)
  | unbound (name : String)
  | uncallable (callee : Datum V)
  | unshown (datum : Datum V)
  | uncompiled
  | undefined

/-- The names that are local to a function, and the values of those that are bound. -/
structure Frame (V : Type) where
  locals : List String
  values : List (String × Datum V)

/-! ### Expressions -/

section Expressions

variable (shown : Datum V → Option String)

/-- What a name stands for. -/
def Frame.read (frame : Frame V) (name : String) : Except (Halt V) (Datum V) :=
  if name = debugName then .ok .debugged
  else if frame.locals.contains name then
    match frame.values.lookup name with
    -- A name of the function that has no value yet is not looked up outside of it.
    | some datum => .ok datum
    | none => .error (.unbound name)
  else .ok (.outer name)

mutual

/-- The value of an expression that makes no call. -/
def Frame.evaluate (frame : Frame V) : Expr → Except (Halt V) (Datum V)
  | .name id => frame.read id
  | .constant (.text value _) => .ok (.text value)
  | .joined parts => return .text (← frame.evaluateParts parts)
  | _ => .error .undefined

/-- The text that parts join to, where values are shown in a given way as far as they can be. -/
def Frame.evaluateParts (frame : Frame V) : List Expr → Except (Halt V) String
  | [] => .ok ""
  | .constant (.text value _) :: rest => return value ++ (← frame.evaluateParts rest)
  | .formatted value (some 'r') none :: rest => do
    let datum ← frame.evaluate value
    match shown datum with
    | some text => return text ++ (← frame.evaluateParts rest)
    | none => .error (.unshown datum)
  | _ => .error .undefined

end

/-- The call that an expression makes, with its callee and its arguments evaluated in order. -/
def Frame.invoke (frame : Frame V) : Expr → Except (Halt V) (Invocation V)
  | .call callee args [] => do
    let callee ← frame.evaluate shown callee
    let args ← args.mapM (frame.evaluate shown)
    -- Only after the arguments are evaluated it turns out whether the callee can be called.
    if callee.isCallable then return ⟨callee, args⟩ else .error (.uncallable callee)
  | _ => .error .undefined

end Expressions

/-! ### Patterns -/

/-- The text that a key of a mapping pattern is. -/
def keyText? : Expr → Option String
  | .constant (.text value _) => some value
  | _ => none

mutual

/-- What a pattern binds when it matches a value; nothing is bound when it does not match. -/
def Pattern.bindings (datum : Datum V) :
    Pattern → Except (Halt V) (Option (List (String × Datum V)))
  | .capture none name => .ok (some (name.toList.map (·, datum)))
  | .mapping items rest =>
    match datum, items.mapM (keyText? ·.1) with
    | _, none => .error .undefined
    | .mapping mapping, some keys =>
      -- Two equal keys make the pattern malformed, whatever the value is.
      if keys.Nodup then do
        let captured ← itemBindings mapping items
        return captured.map (· ++ rest.toList.map (·, .mapping (mapping.without keys)))
      else .error .undefined
    | _, some _ => .ok none
  | _ => .error .undefined

/-- What the items of a mapping pattern bind when all their keys are present. -/
def itemBindings (mapping : Mapping V) :
    List (Expr × Pattern) → Except (Halt V) (Option (List (String × Datum V)))
  | [] => .ok (some [])
  | (key, pattern) :: rest => do
    match (keyText? key).bind mapping.get? with
    | none => .ok none
    | some value =>
      -- Values inside of a mapping are passed on unopened.
      let here ← Pattern.bindings (.given value) pattern
      let further ← itemBindings mapping rest
      return here.bind fun here => further.map (here ++ ·)

end

/-! ### Statements -/

/-- A run: the values of the names that are bound, the calls in order, and what stopped it. -/
structure Run (V : Type) where
  values : List (String × Datum V)
  calls : List (Invocation V) := []
  halt : Option (Halt V) := none

/-- A run that stopped at once. -/
def Run.stopped (values : List (String × Datum V)) (halt : Halt V) : Run V :=
  { values, halt := some halt }

section Statements

variable (shown : Datum V → Option String) (locals : List String)

mutual

/-- The run of a statement. -/
def runStmt (values : List (String × Datum V)) : Stmt → Run V
  | .expression call =>
    match Frame.invoke shown ⟨locals, values⟩ call with
    | .ok invocation => { values, calls := [invocation] }
    | .error halt => .stopped values halt
  | .raise (some call) none =>
    match Frame.invoke shown ⟨locals, values⟩ call with
    | .ok invocation => { values, calls := [invocation], halt := some (.raised invocation) }
    | .error halt => .stopped values halt
  | .matchBlock subject arms =>
    match Frame.evaluate shown ⟨locals, values⟩ subject with
    | .ok datum => runArms values datum arms
    | .error halt => .stopped values halt
  | _ => .stopped values .undefined

/-- The run of the first arm that matches. A pattern that binds a name twice is malformed. -/
def runArms (values : List (String × Datum V)) (datum : Datum V) :
    List (MatchArm (List Stmt)) → Run V
  | [] => { values }
  | ⟨_, some _, _⟩ :: _ => .stopped values .undefined
  | ⟨pattern, none, body⟩ :: rest =>
    if pattern.captures.Nodup then
      match Pattern.bindings datum pattern with
      -- What the arm binds stands in front, and so hides what the names stood for before.
      | .ok (some bound) => runBody (bound ++ values) body
      | .ok none => runArms values datum rest
      | .error halt => .stopped values halt
    else .stopped values .undefined

/-- The run of statements one after another. -/
def runBody (values : List (String × Datum V)) : List Stmt → Run V
  | [] => { values }
  | first :: rest =>
    let run := runStmt values first
    match run.halt with
    | some _ => run
    | none =>
      let further := runBody run.values rest
      { further with calls := run.calls ++ further.calls }

end

end Statements

/-- The names that are local to a function. Inside of a function nothing is imported whole. -/
def functionLocals : Stmt → List String
  | .functionDef head body => Enclosing.locals (fun _ _ => []) ⟨head, body⟩
  | _ => []

/-- The run of a function of one parameter. One that binds the name of the constant is not compiled,
and its run stops before it starts. -/
def runFunction (shown : Datum V → Option String) (function : Stmt) (argument : Datum V) : Run V :=
  match function with
  | .functionDef ⟨false, _, ⟨[], [parameter], none, [], none⟩, [], _⟩ body =>
    if debugName ∈ functionLocals function then .stopped [] .uncompiled
    else runBody shown (functionLocals function) [(parameter.name, argument)] body
  | _ => .stopped [] .undefined

end EntryPoint.Execution
