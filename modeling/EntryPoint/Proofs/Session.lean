/-
# Sessions step by step

What a session comes to in a world is found step by step: what a step leaves is
the world that the next one starts in, and a fault goes to the handler around it.

## Main definitions

* `Session.outcome` - what a session comes to, and the world behind it.
* `Session.ConcernsFiles` - the streams do not matter, and only files change.

## Main results

* `Session.outcome_bind` - steps in sequence.
* `Session.outcome_tryCatch` - a step with a handler.
* `Session.outcome_change` - a deed at the place of a path.
-/

import EntryPoint.World

namespace EntryPoint.Session

variable {α β : Type} {session : Session α} {next : α → Session β} {world after : World}

/-- What a session comes to in a world, and the world behind it. -/
def outcome (session : Session α) (world : World) : Except Fault α × World :=
  (ExceptT.run session).run world

/-! ### Steps -/

theorem outcome_pure (value : α) : outcome (pure value) world = (.ok value, world) := rfl

theorem outcome_get : outcome get world = (.ok world, world) := rfl

/-- The next step starts in the world that a step leaves. -/
theorem outcome_bind : outcome (session >>= next) world =
    match outcome session world with
    | (.ok value, after) => outcome (next value) after
    | (.error fault, after) => (.error fault, after) := by
  unfold outcome ExceptT.run StateT.run
  simp only [bind, ExceptT.bind, ExceptT.mk, ExceptT.bindCont, StateT.bind]
  cases session world with
  | mk result after => cases result <;> rfl

theorem outcome_bind_of_ok {value : α} (succeeds : outcome session world = (.ok value, after)) :
    outcome (session >>= next) world = outcome (next value) after := by
  rw [outcome_bind, succeeds]

theorem outcome_bind_of_error {fault : Fault}
    (fails : outcome session world = (.error fault, after)) :
    outcome (session >>= next) world = (.error fault, after) := by
  rw [outcome_bind, fails]

/-- Steps in sequence succeed only if each of them does. -/
theorem exists_of_outcome_bind_eq_ok {result : β}
    (succeeds : outcome (session >>= next) world = (.ok result, after)) :
    ∃ value between, outcome session world = (.ok value, between) ∧
      outcome (next value) between = (.ok result, after) := by
  rw [outcome_bind] at succeeds
  rcases found : outcome session world with ⟨fault | value, between⟩
  · rw [found] at succeeds
    cases succeeds
  · rw [found] at succeeds
    exact ⟨value, between, rfl, succeeds⟩

/-- A fault goes to the handler, in the world that the failing step left. -/
theorem outcome_tryCatch {handler : Fault → Session α} : outcome (tryCatch session handler) world =
    match outcome session world with
    | (.ok value, after) => (.ok value, after)
    | (.error fault, after) => outcome (handler fault) after := by
  unfold outcome ExceptT.run StateT.run
  simp only [tryCatch, tryCatchThe, MonadExceptOf.tryCatch, ExceptT.tryCatch, ExceptT.mk, bind,
    StateT.bind]
  cases session world with
  | mk result after => cases result <;> rfl

/-- An outcome is told as it is, and nothing changes. -/
theorem outcome_orStop (result : Except Fault α) :
    outcome (orStop result) world = (result, world) := by
  cases result <;> rfl

theorem outcome_orUnforeseen (result : Except UnforeseenKind α) :
    outcome (orUnforeseen result) world = (result.mapError .unforeseen, world) :=
  outcome_orStop _

/-- Steps that only ask, one for each member. -/
theorem outcome_mapM {step : α → Session β} {result : α → β} {members : List α}
    (asks : ∀ member ∈ members, outcome (step member) world = (.ok (result member), world)) :
    outcome (members.mapM step) world = (.ok (members.map result), world) := by
  induction members with
  | nil => rfl
  | cons first members ih =>
    obtain ⟨here, further⟩ := List.forall_mem_cons.mp asks
    rw [List.mapM_cons, outcome_bind_of_ok here, outcome_bind_of_ok (ih further)]
    rfl

/-- Members that are chosen by asking. -/
theorem outcome_filterM {choose : α → Session Bool} {chosen : α → Bool} {members : List α}
    (asks : ∀ member, outcome (choose member) world = (.ok (chosen member), world)) :
    outcome (members.filterM choose) world = (.ok (members.filter chosen), world) := by
  -- Filtering gathers what is chosen backwards, in front of what was taken before.
  have gathered (taken : List α) : outcome (List.filterAuxM choose members taken) world =
      (.ok ((members.filter chosen).reverse ++ taken), world) := by
    induction members generalizing taken with
    | nil => rfl
    | cons first members ih =>
      rw [List.filterAuxM, outcome_bind_of_ok (asks first), ih]
      cases here : chosen first with
      | false => rw [List.filter_cons_of_neg (by simp [here]), cond_false]
      | true =>
        rw [List.filter_cons_of_pos here, List.reverse_cons, List.append_assoc]
        rfl
  unfold List.filterM
  rw [outcome_bind_of_ok (gathered []), List.append_nil]
  exact congrArg (fun found => (Except.ok found, world)) (List.reverse_reverse _)

/-! ### Surroundings -/

theorem outcome_environment? (name : String) :
    outcome (Host.environment? name) world = (.ok (world.environment.lookup name), world) := rfl

theorem outcome_system : outcome Host.system world = (.ok world.system, world) := rfl

theorem outcome_directory : outcome Host.directory world = (.ok world.directory, world) := rfl

theorem outcome_kind? (path : Path) :
    outcome (Host.kind? path) world = (.ok (world.kind? path), world) := rfl

/-! ### Files -/

/-- What stands at a place or is to be done there is found by the files and the current
directory. -/
theorem outcome_locate (path : Path) : outcome (locate path) world =
    ((world.tree.locate world.directory path).mapError .unforeseen, world) := by
  unfold locate
  exact outcome_orUnforeseen _

/-- A deed changes the files if the path leads to a place where it can be done. -/
theorem outcome_change (path : Path)
    (deed : FileTree → List String → Except UnforeseenKind FileTree) :
    outcome (change path deed) world =
      match world.tree.locate world.directory path >>= deed world.tree with
      | .ok tree => (.ok (), { world with tree })
      | .error kind => (.error (.unforeseen kind), world) := by
  unfold change
  rw [outcome_bind, outcome_locate]
  cases world.tree.locate world.directory path with
  | error kind => rfl
  | ok place =>
    have step : (Except.ok place >>= deed world.tree) = deed world.tree place := rfl
    change outcome (orUnforeseen (deed world.tree place) >>= _) world = _
    rw [outcome_bind, outcome_orUnforeseen, step]
    cases deed world.tree place <;> rfl

/-- What a session comes to does not depend on the streams, and of the world it changes nothing but
the files. -/
def ConcernsFiles (session : Session α) : Prop :=
  ∀ world : World, ∃ result tree, ∀ input output diagnostics,
    outcome session { world with input, output, diagnostics } =
      (result, { world with tree, input, output, diagnostics })

namespace ConcernsFiles

theorem pure (value : α) : ConcernsFiles (pure value) := fun world =>
  ⟨.ok value, world.tree, fun _ _ _ => rfl⟩

theorem throw (fault : Fault) : ConcernsFiles (throw fault : Session α) := fun world =>
  ⟨.error fault, world.tree, fun _ _ _ => rfl⟩

/-- Neither of two steps depends on the streams, so that both together do not. -/
theorem bind (first : ConcernsFiles session) (second : ∀ value, ConcernsFiles (next value)) :
    ConcernsFiles (session >>= next) := by
  intro world
  -- Neither what the first step does nor what it gives depends on the streams.
  obtain ⟨result, tree, found⟩ := first world
  cases result with
  | error fault => exact ⟨.error fault, tree, fun _ _ _ => outcome_bind_of_error (found _ _ _)⟩
  | ok value =>
    obtain ⟨result, further, found'⟩ := second value { world with tree }
    refine ⟨result, further, fun input output diagnostics => ?_⟩
    rw [outcome_bind_of_ok (found input output diagnostics)]
    exact found' input output diagnostics

/-- A handler does not depend on the streams either. -/
theorem tryCatch {handler : Fault → Session α} (first : ConcernsFiles session)
    (second : ∀ fault, ConcernsFiles (handler fault)) :
    ConcernsFiles (tryCatch session handler) := by
  intro world
  obtain ⟨result, tree, found⟩ := first world
  cases result with
  | ok value =>
    exact ⟨.ok value, tree, fun _ _ _ => by rw [outcome_tryCatch, found]⟩
  | error fault =>
    obtain ⟨result, further, found'⟩ := second fault { world with tree }
    refine ⟨result, further, fun input output diagnostics => ?_⟩
    rw [outcome_tryCatch, found]
    exact found' input output diagnostics

/-- What is done at a place depends on the files and the current directory alone. -/
theorem change (path : Path) (deed : FileTree → List String → Except UnforeseenKind FileTree) :
    ConcernsFiles (change path deed) := by
  intro world
  cases done : world.tree.locate world.directory path >>= deed world.tree with
  | error kind =>
    exact ⟨.error (.unforeseen kind), world.tree, fun _ _ _ => by rw [outcome_change, done]⟩
  | ok tree => exact ⟨.ok (), tree, fun _ _ _ => by rw [outcome_change, done]⟩

end ConcernsFiles

end EntryPoint.Session
