/-
# Scopes

A module and every function in it is a scope. A name is bound in the scope that
the statement or expression that binds it stands in; a function also binds its
parameters. A name that is read inside functions leads to the innermost of them
that binds it, and to the module if none does.

An import of everything that another module publishes binds names that no tree
shows. What modules publish is therefore a parameter here.

Names are compared as they stand in the tree. A class body is a scope that the
functions inside of it do not see, and a function can hand a name to the module
or to a function around it by a declaration. Neither occurs in the code that this
library writes around a function, and neither is followed when a name is resolved.
Where a module holds other code, the names that may be handed to it are listed.

## Main definitions

* `Expr.assigned`, `Pattern.captures`, `Stmt.bound` - the names that a part of a tree binds.
* `Stmt.globals` - the names that a part of a tree hands to the module.
* `Enclosing`, `Within` - the functions around a statement of a module.
* `resolve` - the binding that a name leads to.
* `Unbound` - a name leads out of the module.
-/

import EntryPoint.Syntax.Tree

namespace EntryPoint.Syntax

/-! ### Names that expressions bind -/

mutual

/-- The names that an assignment inside of an expression binds where the expression stands. The body
of a function without name is a scope of its own. -/
def Expr.assigned : Expr → List String
  | .constant _ | .name _ => []
  | .attribute value _ => value.assigned
  | .subscript value index => value.assigned ++ index.assigned
  | .call callee args keywords => callee.assigned ++ assignedEach args ++ assignedKeywords keywords
  | .starred value => value.assigned
  | .tuple elements | .list elements | .set elements => assignedEach elements
  | .dict items => assignedItems items
  | .listComp element clauses | .setComp element clauses | .generator element clauses =>
    element.assigned ++ assignedClauses clauses
  | .dictComp key value clauses => key.assigned ++ value.assigned ++ assignedClauses clauses
  | .boolean _ operands => assignedEach operands
  | .binary left _ right => left.assigned ++ right.assigned
  | .unary _ operand => operand.assigned
  | .compare left rest => left.assigned ++ assignedComparisons rest
  | .conditional test body orElse => test.assigned ++ body.assigned ++ orElse.assigned
  | .lambda parameters _ => assignedParameters parameters
  | .named target value => target.targets ++ value.assigned
  | .await value => value.assigned
  | .yield value => assignedOption value
  | .yieldFrom value => value.assigned
  | .slice lower upper step =>
    assignedOption lower ++ assignedOption upper ++ assignedOption step
  | .formatted value _ spec => value.assigned ++ assignedOption spec
  | .joined parts => assignedEach parts

/-- The names that an expression binds as a target. -/
def Expr.targets : Expr → List String
  | .name id => [id]
  | .starred value => value.targets
  | .tuple elements | .list elements => targetsEach elements
  | _ => []

def targetsEach : List Expr → List String
  | [] => []
  | first :: rest => first.targets ++ targetsEach rest

def assignedEach : List Expr → List String
  | [] => []
  | first :: rest => first.assigned ++ assignedEach rest

def assignedOption : Option Expr → List String
  | none => []
  | some value => value.assigned

def assignedKeywords : List (Keyword Expr) → List String
  | [] => []
  | ⟨_, value⟩ :: rest => value.assigned ++ assignedKeywords rest

def assignedItems : List (Option Expr × Expr) → List String
  | [] => []
  | (key, value) :: rest => assignedOption key ++ value.assigned ++ assignedItems rest

def assignedComparisons : List (Comparison × Expr) → List String
  | [] => []
  | (_, value) :: rest => value.assigned ++ assignedComparisons rest

/-- The targets of clauses are bound inside of the comprehension. -/
def assignedClauses : List (Clause Expr) → List String
  | [] => []
  | ⟨_, target, source, conditions⟩ :: rest =>
    target.assigned ++ source.assigned ++ assignedEach conditions ++ assignedClauses rest

def assignedParameters : Parameters Expr → List String
  | ⟨positionOnly, regular, variadic, nameOnly, keywords⟩ =>
    assignedParameterList positionOnly ++ assignedParameterList regular ++
      assignedParameterOption variadic ++ assignedParameterList nameOnly ++
      assignedParameterOption keywords

def assignedParameterList : List (Parameter Expr) → List String
  | [] => []
  | ⟨_, annotation, default⟩ :: rest =>
    assignedOption annotation ++ assignedOption default ++ assignedParameterList rest

def assignedParameterOption : Option (Parameter Expr) → List String
  | none => []
  | some ⟨_, annotation, default⟩ => assignedOption annotation ++ assignedOption default

end

@[simp] theorem assignedEach_eq_flatMap (elements : List Expr) :
    assignedEach elements = elements.flatMap Expr.assigned := by
  induction elements with
  | nil => rfl
  | cons first rest ih => rw [assignedEach, ih, List.flatMap_cons]

/-- The names that are bound when a target is bound. -/
def Expr.boundAsTarget (target : Expr) : List String :=
  target.targets ++ target.assigned

/-! ### Names that patterns bind -/

mutual

/-- The names that a pattern binds. -/
def Pattern.captures : Pattern → List String
  | .value _ | .singleton _ => []
  | .sequence elements => capturesEach elements
  | .mapping items rest => capturesItems items ++ rest.toList
  | .construct _ positions attributes => capturesEach positions ++ capturesAttributes attributes
  | .star name => name.toList
  | .capture pattern name => capturesOption pattern ++ name.toList
  | .alternatives patterns => capturesEach patterns

def capturesEach : List Pattern → List String
  | [] => []
  | first :: rest => first.captures ++ capturesEach rest

def capturesOption : Option Pattern → List String
  | none => []
  | some pattern => pattern.captures

def capturesItems : List (Expr × Pattern) → List String
  | [] => []
  | (_, pattern) :: rest => pattern.captures ++ capturesItems rest

def capturesAttributes : List (String × Pattern) → List String
  | [] => []
  | (_, pattern) :: rest => pattern.captures ++ capturesAttributes rest

end

/-! ### Names that statements bind -/

/-- What a module publishes to those that import all of it: the module is given by its name, if it
has one, and by how many points stand in front of it. -/
abbrev Published := Option String → Nat → List String

/-- The name that the import of a module binds: the one that it is given, or else its own up to the
first point. -/
def Alias.ofModule (imported : Alias) : String :=
  imported.asName.getD (String.ofList (imported.name.toList.takeWhile (· ≠ '.')))

/-- The names that an import from a module binds, where that module publishes given names. -/
def Alias.ofMember (published : List String) (imported : Alias) : List String :=
  if imported.name = "*" then published else [imported.asName.getD imported.name]

/-- The names that the head of a function definition binds around the function. -/
def FunctionHead.bound (head : FunctionHead) : List String :=
  head.name :: (assignedEach head.decorators ++ assignedParameters head.parameters ++
    assignedOption head.returns)

/-- The names that the head of a class definition binds around the class. -/
def ClassHead.bound (head : ClassHead) : List String :=
  head.name :: (assignedEach head.decorators ++ assignedEach head.bases ++
    assignedKeywords head.keywords)

/-- The names that an item of a `with` statement binds. -/
def WithItem.bound (item : WithItem) : List String :=
  item.context.assigned ++ (item.target.map Expr.boundAsTarget).getD []

mutual

/-- The names that a statement binds in the scope that it stands in. -/
def Stmt.bound (published : Published) : Stmt → List String
  -- The body of a function or class is a scope of its own: around it only the head binds.
  | .functionDef head _ => head.bound
  | .classDef head _ => head.bound
  | .returnValue value => assignedOption value
  | .delete targets => targets.flatMap Expr.boundAsTarget
  | .assign targets value => targets.flatMap Expr.boundAsTarget ++ value.assigned
  | .augAssign target _ value => target.boundAsTarget ++ value.assigned
  | .annAssign target annotation value _ =>
    target.boundAsTarget ++ annotation.assigned ++ assignedOption value
  | .forLoop _ target source body orElse =>
    target.boundAsTarget ++ source.assigned ++ boundEach published body ++
      boundEach published orElse
  | .whileLoop test body orElse =>
    test.assigned ++ boundEach published body ++ boundEach published orElse
  | .branch test body orElse =>
    test.assigned ++ boundEach published body ++ boundEach published orElse
  | .withBlock _ items body => items.flatMap WithItem.bound ++ boundEach published body
  | .matchBlock subject arms => subject.assigned ++ boundArms published arms
  | .raise exception cause => assignedOption exception ++ assignedOption cause
  | .tryBlock _ body handlers orElse final =>
    boundEach published body ++ boundHandlers published handlers ++ boundEach published orElse ++
      boundEach published final
  | .assertion test message => test.assigned ++ assignedOption message
  | .importModules names => names.map Alias.ofModule
  | .importFrom source names level => names.flatMap (Alias.ofMember (published source level))
  | .expression value => value.assigned
  | .globalNames _ | .nonlocalNames _ | .pass | .breakLoop | .continueLoop => []

def boundEach (published : Published) : List Stmt → List String
  | [] => []
  | first :: rest => first.bound published ++ boundEach published rest

def boundArms (published : Published) : List (MatchArm (List Stmt)) → List String
  | [] => []
  | ⟨pattern, guard, body⟩ :: rest =>
    pattern.captures ++ assignedOption guard ++ boundEach published body ++
      boundArms published rest

def boundHandlers (published : Published) : List (Handler (List Stmt)) → List String
  | [] => []
  | ⟨type, name, body⟩ :: rest =>
    assignedOption type ++ name.toList ++ boundEach published body ++
      boundHandlers published rest

end

@[simp] theorem boundEach_eq_flatMap (published : Published) (stmts : List Stmt) :
    boundEach published stmts = stmts.flatMap (Stmt.bound published) := by
  induction stmts with
  | nil => rfl
  | cons first rest ih => rw [boundEach, ih, List.flatMap_cons]

/-! ### Names that statements hand to the module -/

mutual

/-- The names that a statement declares to be names of the module, at any depth. -/
def Stmt.globals : Stmt → List String
  -- A declaration inside of a function still hands the name to the module, so bodies count here.
  | .functionDef _ body | .classDef _ body | .withBlock _ _ body => globalsEach body
  | .forLoop _ _ _ body orElse | .whileLoop _ body orElse | .branch _ body orElse =>
    globalsEach body ++ globalsEach orElse
  | .matchBlock _ arms => globalsArms arms
  | .tryBlock _ body handlers orElse final =>
    globalsEach body ++ globalsHandlers handlers ++ globalsEach orElse ++ globalsEach final
  | .globalNames names => names
  | _ => []

def globalsEach : List Stmt → List String
  | [] => []
  | first :: rest => first.globals ++ globalsEach rest

def globalsArms : List (MatchArm (List Stmt)) → List String
  | [] => []
  | ⟨_, _, body⟩ :: rest => globalsEach body ++ globalsArms rest

def globalsHandlers : List (Handler (List Stmt)) → List String
  | [] => []
  | ⟨_, _, body⟩ :: rest => globalsEach body ++ globalsHandlers rest

end

/-- The names of parameters. -/
def Parameters.names (parameters : Parameters Expr) : List String :=
  (parameters.positionOnly ++ parameters.regular ++ parameters.variadic.toList ++
    parameters.nameOnly ++ parameters.keywords.toList).map (·.name)

/-! ### Resolving names -/

/-- A function around a place. -/
structure Enclosing where
  head : FunctionHead
  body : List Stmt

/-- The definition of a function around a place. -/
def Enclosing.toStmt (function : Enclosing) : Stmt :=
  .functionDef function.head function.body

/-- The statements that stand directly inside of a statement and in the same scope. -/
def Stmt.inner : Stmt → List Stmt
  | .forLoop _ _ _ body orElse | .whileLoop _ body orElse | .branch _ body orElse =>
    body ++ orElse
  | .withBlock _ _ body => body
  | .matchBlock _ arms => arms.flatMap (·.body)
  | .tryBlock _ body handlers orElse final =>
    body ++ handlers.flatMap (·.body) ++ orElse ++ final
  | _ => []

/-- A statement stands in a module inside of functions, the innermost first. -/
inductive Within (module : List Stmt) : List Enclosing → Stmt → Prop
  | top {stmt : Stmt} : stmt ∈ module → Within module [] stmt
  | inner {around : List Enclosing} {outer stmt : Stmt} :
    Within module around outer → stmt ∈ outer.inner → Within module around stmt
  | body {around : List Enclosing} {head : FunctionHead} {body : List Stmt} {stmt : Stmt} :
    Within module around (.functionDef head body) → stmt ∈ body →
      Within module (⟨head, body⟩ :: around) stmt

/-- What binds a name: a statement of the module, or a parameter or statement of a function. -/
inductive Binding
  | top (stmt : Stmt)
  | parameter (function : FunctionHead)
  | inside (function : FunctionHead) (stmt : Stmt)

/-- The names that are local to a function: its parameters, and what its statements bind. -/
def Enclosing.locals (published : Published) (function : Enclosing) : List String :=
  function.head.parameters.names ++ boundEach published function.body

/-- The last statement of a list that binds a name. -/
def lastBinding? (published : Published) (name : String) (stmts : List Stmt) : Option Stmt :=
  stmts.findRev? fun stmt => (stmt.bound published).contains name

/-- The binding of a name in a function, if the function binds it. -/
def Enclosing.binding? (published : Published) (function : Enclosing) (name : String) :
    Option Binding :=
  match lastBinding? published name function.body with
  | some stmt => some (.inside function.head stmt)
  | none =>
    if function.head.parameters.names.contains name then some (.parameter function.head) else none

/-- The binding that a name leads to where it is read inside of functions, after given statements of
the module have run. -/
def resolve (published : Published) (executed : List Stmt) :
    List Enclosing → String → Option Binding
  | [], name => (lastBinding? published name executed).map .top
  | function :: around, name =>
    match function.binding? published name with
    | some binding => some binding
    | none => resolve published executed around name

/-- No function around a place and no statement of the module binds a name, nor is it handed to the
module: the name leads out of the module. -/
def Unbound (published : Published) (module : List Stmt) (around : List Enclosing)
    (name : String) : Prop :=
  resolve published module around name = none ∧ ∀ stmt ∈ module, name ∉ stmt.globals

/-! ### Laws of resolving -/

section Laws

variable {published : Published} {name : String} {stmt : Stmt} {executed : List Stmt}
  {around : List Enclosing} {function : Enclosing}

theorem mem_of_lastBinding?_eq_some (found : lastBinding? published name executed = some stmt) :
    stmt ∈ executed ∧ name ∈ stmt.bound published := by
  rw [lastBinding?, List.findRev?_eq_find?_reverse] at found
  have member := List.mem_of_find?_eq_some found
  have binds := List.find?_some found
  exact ⟨List.mem_reverse.mp member, by simpa using binds⟩

theorem lastBinding?_eq_none_iff :
    lastBinding? published name executed = none ↔
      ∀ stmt ∈ executed, name ∉ stmt.bound published := by
  rw [lastBinding?, List.findRev?_eq_find?_reverse, List.find?_eq_none]
  simp

/-- The binding of a name is the last one: further statements come before earlier ones. -/
theorem lastBinding?_append {further : List Stmt} :
    lastBinding? published name (executed ++ further) =
      (lastBinding? published name further).or (lastBinding? published name executed) := by
  simp only [lastBinding?, List.findRev?_eq_find?_reverse, List.reverse_append, List.find?_append]

/-- A name that further statements bind is bound by one of them. -/
theorem lastBinding?_append_of_bound {further : List Stmt}
    (bound : ∃ stmt ∈ further, name ∈ stmt.bound published) :
    ∃ stmt ∈ further, name ∈ stmt.bound published ∧
      lastBinding? published name (executed ++ further) = some stmt := by
  cases found : lastBinding? published name further with
  -- If no further statement bound the name, the one that is given would not either.
  | none =>
    obtain ⟨stmt, member, binds⟩ := bound
    exact absurd binds (lastBinding?_eq_none_iff.mp found stmt member)
  | some stmt =>
    obtain ⟨member, binds⟩ := mem_of_lastBinding?_eq_some found
    exact ⟨stmt, member, binds, by rw [lastBinding?_append, found, Option.some_or]⟩

/-- A binding is still the last one exactly when no further statement binds the name. -/
theorem lastBinding?_append_eq_some_iff {further : List Stmt} (fresh : stmt ∉ further) :
    lastBinding? published name (executed ++ further) = some stmt ↔
      lastBinding? published name executed = some stmt ∧
        ∀ later ∈ further, name ∉ later.bound published := by
  rw [← lastBinding?_eq_none_iff, lastBinding?_append]
  cases found : lastBinding? published name further with
  | none => simp
  | some later =>
    have member := (mem_of_lastBinding?_eq_some found).1
    simp only [Option.some_or, Option.some.injEq, reduceCtorEq, and_false, iff_false]
    rintro rfl
    exact fresh member

/-- A statement that binds a name binds it anew. -/
theorem lastBinding?_concat_of_bound (bound : name ∈ stmt.bound published) :
    lastBinding? published name (executed ++ [stmt]) = some stmt := by
  rw [lastBinding?_append]
  simp [lastBinding?, List.findRev?, bound]

/-- A statement that binds a name is the last to do so exactly when no later statement does. -/
theorem lastBinding?_eq_self_iff (before : List Stmt) {later : List Stmt}
    (bound : name ∈ stmt.bound published) (fresh : stmt ∉ later) :
    lastBinding? published name (before ++ stmt :: later) = some stmt ↔
      ∀ other ∈ later, name ∉ other.bound published := by
  rw [List.append_cons, lastBinding?_append_eq_some_iff fresh, lastBinding?_concat_of_bound bound]
  simp

/-- A function binds its local names and no others. -/
theorem Enclosing.binding?_eq_none_iff :
    function.binding? published name = none ↔ name ∉ function.locals published := by
  rw [Enclosing.binding?, Enclosing.locals, List.mem_append, not_or, boundEach_eq_flatMap]
  split
  · rename_i stmt found
    have bound := mem_of_lastBinding?_eq_some found
    simp only [reduceCtorEq, false_iff, List.mem_flatMap]
    exact fun unbound => unbound.2 ⟨stmt, bound⟩
  · rename_i unbound
    rw [lastBinding?_eq_none_iff] at unbound
    have inner : ¬∃ stmt ∈ function.body, name ∈ stmt.bound published :=
      fun ⟨stmt, member, bound⟩ => unbound stmt member bound
    simp only [List.mem_flatMap, inner, not_false_iff, and_true]
    split <;> simp_all

/-- A name leads out of a function exactly when the function does not bind it. -/
theorem resolve_cons_eq_top_iff :
    resolve published executed (function :: around) name = some (.top stmt) ↔
      name ∉ function.locals published ∧
        resolve published executed around name = some (.top stmt) := by
  rw [resolve, ← Enclosing.binding?_eq_none_iff]
  split
  · rename_i binding found
    simp only [found, reduceCtorEq, false_and, iff_false, Option.some.injEq]
    rw [Enclosing.binding?] at found
    split at found
    · cases found
      simp
    · split at found
      · cases found
        simp
      · cases found
  · rename_i unbound
    simp [unbound]

theorem resolve_nil_eq_top_iff :
    resolve published executed [] name = some (.top stmt) ↔
      lastBinding? published name executed = some stmt := by
  simp [resolve]

theorem resolve_nil_eq_none_iff :
    resolve published executed [] name = none ↔
      ∀ stmt ∈ executed, name ∉ stmt.bound published := by
  rw [resolve, Option.map_eq_none_iff, lastBinding?_eq_none_iff]

theorem resolve_cons_eq_none_iff :
    resolve published executed (function :: around) name = none ↔
      name ∉ function.locals published ∧ resolve published executed around name = none := by
  rw [resolve, ← Enclosing.binding?_eq_none_iff]
  cases function.binding? published name with
  | some binding => simp
  | none => simp

/-- A name leads to a statement of a function exactly when that is the last one to bind it. -/
theorem resolve_singleton_eq_inside_iff :
    resolve published executed [function] name = some (.inside function.head stmt) ↔
      lastBinding? published name function.body = some stmt := by
  rw [resolve, Enclosing.binding?]
  -- A statement of the body hides a parameter of the same name, so it is the one that is found.
  cases lastBinding? published name function.body with
  | some last => simp
  | none =>
    simp only [reduceCtorEq, iff_false]
    split
    · rename_i found
      split at found <;> cases found
      simp
    · simp [resolve]

/-- A name leads to a parameter exactly when no statement of the function binds it. -/
theorem resolve_singleton_eq_parameter_iff (parameter : name ∈ function.head.parameters.names) :
    resolve published executed [function] name = some (.parameter function.head) ↔
      lastBinding? published name function.body = none := by
  rw [resolve, Enclosing.binding?]
  cases lastBinding? published name function.body with
  | some last => simp
  | none => simp [parameter]

end Laws

end EntryPoint.Syntax
