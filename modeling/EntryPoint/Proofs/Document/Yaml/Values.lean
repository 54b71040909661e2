/-
# Scalars without value

The value of a node is put together from those of the nodes in it. So it is missing for
a reason that is not foreseen only if some node in it has text that its kind cannot have:
a scalar, or a mapping that stands for the text of its default.

## Main definitions

* `Node.Stops` - a node, or one in it, has text that its kind cannot have.
* `Blames` - what is not foreseen has its grounds.

## Main results

* `Blames.both`, `Blames.allOf`, `Blames.bind` - results that are put together.
* `Node.blames_value` - the value of a node.
-/

import EntryPoint.Document.Yaml.Reader
import EntryPoint.Proofs.Outcome

namespace EntryPoint.Document.Yaml

/-- A node, or one in it, has text that its kind cannot have. A mapping of a kind of scalars has the
text of its default. -/
inductive Node.Stops : Node → UnforeseenKind → Prop
  | scalar {tag : Tag} {text : String} {kind : UnforeseenKind}
    (flaw : scalarValue tag text = .error (.unforeseen kind)) : Stops (.scalar tag text) kind
  | default {tag : Tag} {pairs : List (Node × Node)} {text : String} {kind : UnforeseenKind}
    (stands : defaultTextOf? pairs = some text)
    (flaw : scalarValue tag text = .error (.unforeseen kind)) : Stops (.mapping tag pairs) kind
  | moment {pairs : List (Node × Node)} {text : String}
    (stands : defaultTextOf? pairs = some text) : Stops (.mapping .timestamp pairs) .type
  | element {tag : Tag} {elements : List Node} {element : Node} {kind : UnforeseenKind}
    (member : element ∈ elements) (stops : Stops element kind) : Stops (.sequence tag elements) kind
  | key {tag : Tag} {pairs : List (Node × Node)} {pair : Node × Node} {kind : UnforeseenKind}
    (member : pair ∈ pairs) (stops : Stops pair.1 kind) : Stops (.mapping tag pairs) kind
  | value {tag : Tag} {pairs : List (Node × Node)} {pair : Node × Node} {kind : UnforeseenKind}
    (member : pair ∈ pairs) (stops : Stops pair.2 kind) : Stops (.mapping tag pairs) kind

variable {α β : Type} {grounds wider : UnforeseenKind → Prop} {depth : Nat}

/-! ### Grounds -/

/-- A flaw of a result that is not foreseen has its grounds. -/
def Blames (grounds : UnforeseenKind → Prop) (result : Placed α) : Prop :=
  ∀ depth kind, result = .error (depth, .unforeseen kind) → grounds kind

namespace Blames

theorem ok (value : α) : Blames grounds (.ok value) := by
  rintro depth kind ⟨⟩

theorem malformedAt (depth : Nat) : Blames grounds (malformedAt depth : Placed α) := by
  rintro depth kind ⟨⟩

theorem mono {result : Placed α} (blames : Blames grounds result)
    (sub : ∀ kind, grounds kind → wider kind) : Blames wider result :=
  fun depth kind same => sub kind (blames depth kind same)

/-- A flaw keeps its grounds wherever it is placed. -/
theorem atDepth {result : Except Flaw α}
    (flaw : ∀ kind, result = .error (.unforeseen kind) → grounds kind) :
    Blames grounds (atDepth depth result) := by
  cases result with
  | ok value => exact .ok value
  | error found =>
    rintro depth kind ⟨⟩
    exact flaw kind rfl

/-- A second result may rely on the value of the first. -/
theorem bind {first : Placed α} {second : α → Placed β} (here : Blames grounds first)
    (further : ∀ value, first = .ok value → Blames grounds (second value)) :
    Blames grounds (first >>= second) := by
  intro depth kind stops
  rcases bind_eq_error_iff.mp stops with stops | ⟨value, passes, stops⟩
  · exact here depth kind stops
  · exact further value passes depth kind stops

theorem map {first : Placed α} {make : α → β} (here : Blames grounds first) :
    Blames grounds (first.map make) :=
  fun depth kind stops => here depth kind (map_eq_error_iff.mp stops)

/-- Of two results that are found side by side the flaw further out counts, and each has its
grounds. -/
theorem both {first : Placed α} {second : Placed β} (here : Blames grounds first)
    (there : Blames grounds second) : Blames grounds (both first second) := by
  intro depth kind stops
  rcases first with flaw | a <;> rcases second with other | b
  · rw [Yaml.both] at stops
    split at stops
    · cases stops
      exact there _ _ rfl
    · cases stops
      exact here _ _ rfl
  · cases stops
    exact here _ _ rfl
  · cases stops
    exact there _ _ rfl
  · cases stops

theorem allOf {results : List (Placed α)} (each : ∀ result ∈ results, Blames grounds result) :
    Blames grounds (allOf results) := by
  induction results with
  | nil => exact .ok []
  | cons first rest ih =>
    obtain ⟨here, further⟩ := List.forall_mem_cons.mp each
    exact (here.both (ih further)).map

/-- The value of a pair: a key that cannot be one is malformed, which is nothing that is not
foreseen. -/
theorem pairValue {key value : Placed Value} (first : Blames grounds key)
    (second : Blames grounds value) : Blames grounds (pairValue depth key value) := by
  refine Blames.both (Blames.bind first fun key _ => ?_) second
  split
  · exact .ok key
  · exact .malformedAt depth

end Blames

/-- Every flaw in a list of results, or in the list itself, that is not foreseen has its grounds. -/
structure BlamesAll (grounds : UnforeseenKind → Prop)
    (results : Placed (List (Placed (Value × Value)))) : Prop where
  list : Blames grounds results
  each : ∀ members, results = .ok members → ∀ member ∈ members, Blames grounds member

namespace BlamesAll

theorem ok {members : List (Placed (Value × Value))}
    (each : ∀ member ∈ members, Blames grounds member) : BlamesAll grounds (.ok members) where
  list := .ok members
  each := by
    rintro _ ⟨⟩
    exact each

theorem mono {results : Placed (List (Placed (Value × Value)))} (blames : BlamesAll grounds results)
    (sub : ∀ kind, grounds kind → wider kind) : BlamesAll wider results where
  list := blames.list.mono sub
  each members same member among := (blames.each members same member among).mono sub

/-- Merged pairs stand in front of a mapping's own. -/
theorem withMerged {merged : Placed (List (Placed (Value × Value)))}
    {own : List (Placed (Value × Value))} (first : BlamesAll grounds merged)
    (second : ∀ member ∈ own, Blames grounds member) :
    BlamesAll grounds (withMerged merged own) where
  list := first.list.map
  each := by
    intro members same
    cases merged with
    | error flaw => cases same
    | ok before =>
      obtain rfl := Except.ok.inj same
      exact List.forall_mem_append.mpr ⟨first.each before rfl, second⟩

/-- Lists of results that follow each other. -/
theorem append {first second : Placed (List (Placed (Value × Value)))}
    (here : BlamesAll grounds first) (there : BlamesAll grounds second) :
    BlamesAll grounds (do .ok ((← first) ++ (← second))) where
  list := here.list.bind fun _ _ => there.list.bind fun _ _ => .ok _
  each := by
    intro members same
    obtain ⟨before, passes, same⟩ := bind_eq_ok_iff.mp same
    obtain ⟨after, passes', same⟩ := bind_eq_ok_iff.mp same
    obtain rfl := Except.ok.inj same
    exact List.forall_mem_append.mpr ⟨here.each before passes, there.each after passes'⟩

/-- All members of a list of results. -/
theorem allOf {results : Placed (List (Placed (Value × Value)))}
    (blames : BlamesAll grounds results) {make : List (Value × Value) → Value} :
    Blames grounds (results >>= fun members => (Yaml.allOf members).map make) :=
  blames.list.bind fun members same => (Blames.allOf (blames.each members same)).map

end BlamesAll

/-- Every flaw in a list of lists of results, or in the list itself, that is not foreseen has its
grounds. -/
structure BlamesLists (grounds : UnforeseenKind → Prop)
    (results : Placed (List (List (Placed (Value × Value))))) : Prop where
  list : Blames grounds results
  each : ∀ lists, results = .ok lists → ∀ list ∈ lists, ∀ member ∈ list, Blames grounds member

namespace BlamesLists

variable {results : Placed (List (List (Placed (Value × Value))))}

theorem mono (blames : BlamesLists grounds results)
    (sub : ∀ kind, grounds kind → wider kind) : BlamesLists wider results where
  list := blames.list.mono sub
  each lists same list within member among :=
    (blames.each lists same list within member among).mono sub

theorem cons {first : Placed (List (Placed (Value × Value)))} (here : BlamesAll grounds first)
    (further : BlamesLists grounds results) :
    BlamesLists grounds (do .ok ((← first) :: (← results))) where
  list := here.list.bind fun _ _ => further.list.bind fun _ _ => .ok _
  each := by
    intro lists same
    obtain ⟨list, passes, same⟩ := bind_eq_ok_iff.mp same
    obtain ⟨others, passes', same⟩ := bind_eq_ok_iff.mp same
    obtain rfl := Except.ok.inj same
    exact List.forall_mem_cons.mpr ⟨here.each list passes, further.each others passes'⟩

/-- The lists are taken from the last to the first. -/
theorem flatten (blames : BlamesLists grounds results) :
    BlamesAll grounds (results.map (·.reverse.flatten)) where
  list := blames.list.map
  each := by
    intro members same member among
    cases results with
    | error flaw => cases same
    | ok lists =>
      obtain rfl := Except.ok.inj same
      obtain ⟨list, within, among⟩ := List.mem_flatten.mp among
      exact blames.each lists rfl list (List.mem_reverse.mp within) member among

end BlamesLists

/-! ### Nodes -/

/-- An element of a list, or a node in it, has text that its kind cannot have. -/
def StopsAmongNodes (elements : List Node) (kind : UnforeseenKind) : Prop :=
  ∃ element ∈ elements, element.Stops kind

/-- A key or a value of a list of pairs, or a node in it, has text that its kind cannot have. -/
def StopsAmongPairs (pairs : List (Node × Node)) (kind : UnforeseenKind) : Prop :=
  ∃ pair ∈ pairs, pair.1.Stops kind ∨ pair.2.Stops kind

theorem StopsAmongNodes.tail {element : Node} {rest : List Node} {kind : UnforeseenKind} :
    StopsAmongNodes rest kind → StopsAmongNodes (element :: rest) kind
  | ⟨other, member, stops⟩ => ⟨other, .tail _ member, stops⟩

theorem StopsAmongPairs.tail {pair : Node × Node} {rest : List (Node × Node)}
    {kind : UnforeseenKind} : StopsAmongPairs rest kind → StopsAmongPairs (pair :: rest) kind
  | ⟨other, member, stops⟩ => ⟨other, .tail _ member, stops⟩

/-- What is amiss in a pair is amiss in the mapping that it belongs to. -/
theorem StopsAmongPairs.mapping {tag : Tag} {pairs : List (Node × Node)} {kind : UnforeseenKind} :
    StopsAmongPairs pairs kind → (Node.mapping tag pairs).Stops kind
  | ⟨_, member, .inl stops⟩ => .key member stops
  | ⟨_, member, .inr stops⟩ => .value member stops

mutual

/-- What stops the value of a node is text in it that its kind cannot have. -/
theorem Node.blames_value (depth : Nat) :
    (node : Node) → Blames node.Stops (node.value depth)
  -- One case for each node: what stops its value stops the node itself or one inside of it.
  | .scalar tag text => by
    rw [Node.value]
    split
    · exact .malformedAt _
    · exact .atDepth fun kind flaw => .scalar flaw
  | .sequence tag elements => by
    rw [Node.value.eq_def]
    dsimp only
    split
    · exact (Blames.allOf (blames_valuesOf (depth + 1) elements)).map.mono
        fun kind ⟨_, member, stops⟩ => .element member stops
    · exact (Blames.allOf (blames_singlesOf (depth + 1) elements)).map.mono
        fun kind ⟨_, member, stops⟩ => .element member stops
    · exact (Blames.allOf (blames_singlesOf (depth + 1) elements)).map.mono
        fun kind ⟨_, member, stops⟩ => .element member stops
    · exact .malformedAt _
  | .mapping tag pairs => by
    have own := blames_ownPairs (depth + 1) pairs
    have merged := blames_mergedPairs (depth + 1) pairs
    rw [Node.value.eq_def]
    dsimp only
    split
    · exact (merged.withMerged own).allOf.mono fun _ stops => stops.mapping
    · exact (merged.withMerged own).allOf.mono fun _ stops => stops.mapping
    -- A mapping that is taken for a moment is refused even where its default has the text of one.
    · split
      · rename_i stands
        refine .atDepth fun kind flaw => ?_
        cases flaw
        exact .moment stands
      · exact .malformedAt _
    · split
      · exact .malformedAt _
      · split
        · rename_i stands
          exact .atDepth fun kind flaw => .default stands flaw
        · exact .malformedAt _
  | .enclosing => by
    rw [Node.value]
    exact .ok _

theorem blames_valuesOf (depth : Nat) :
    (elements : List Node) → ∀ result ∈ valuesOf depth elements,
      Blames (StopsAmongNodes elements) result
  | [] => List.forall_mem_nil _
  | element :: rest => by
    rw [valuesOf, List.forall_mem_cons]
    exact ⟨(element.blames_value depth).mono fun kind stops => ⟨element, .head _, stops⟩,
      fun result member => (blames_valuesOf depth rest result member).mono fun _ => .tail⟩

/-- The pairs of a sequence of mappings with one pair each. -/
theorem blames_singlesOf (depth : Nat) :
    (elements : List Node) → ∀ result ∈ singlesOf depth elements,
      Blames (StopsAmongNodes elements) result
  | [] => List.forall_mem_nil _
  | element :: rest => by
    have further :
        ∀ result ∈ singlesOf depth rest, Blames (StopsAmongNodes (element :: rest)) result :=
      fun result member => (blames_singlesOf depth rest result member).mono fun _ => .tail
    rw [singlesOf.eq_def]
    -- Only mappings of a single pair are taken here; any other node is malformed.
    split
    · exact List.forall_mem_nil _
    · rename_i tag key value rest' same
      obtain ⟨rfl, rfl⟩ := List.cons.inj same
      have first :
          Blames (StopsAmongNodes (.mapping tag [(key, value)] :: rest)) (key.value depth) :=
        (key.blames_value depth).mono fun kind stops => ⟨_, .head _, .key (.head _) stops⟩
      have second :
          Blames (StopsAmongNodes (.mapping tag [(key, value)] :: rest)) (value.value depth) :=
        (value.blames_value depth).mono fun kind stops => ⟨_, .head _, .value (.head _) stops⟩
      exact List.forall_mem_cons.mpr ⟨first.both second, further⟩
    · rename_i same
      obtain ⟨rfl, rfl⟩ := List.cons.inj same
      exact List.forall_mem_cons.mpr ⟨.malformedAt depth, further⟩

/-- The pairs that a mapping holds itself, each of them with its grounds. -/
theorem blames_ownPairs (depth : Nat) :
    (pairs : List (Node × Node)) → ∀ result ∈ ownPairs depth pairs,
      Blames (StopsAmongPairs pairs) result
  | [] => List.forall_mem_nil _
  | (key, value) :: rest => by
    have further : ∀ result ∈ ownPairs depth rest,
        Blames (StopsAmongPairs ((key, value) :: rest)) result :=
      fun result member => (blames_ownPairs depth rest result member).mono fun _ => .tail
    have first : Blames (StopsAmongPairs ((key, value) :: rest)) (key.value depth) :=
      (key.blames_value depth).mono fun kind stops => ⟨_, .head _, .inl stops⟩
    have second : Blames (StopsAmongPairs ((key, value) :: rest)) (value.value depth) :=
      (value.blames_value depth).mono fun kind stops => ⟨_, .head _, .inr stops⟩
    rw [ownPairs.eq_def]
    dsimp only
    -- A key to merge is left to the merged pairs, and a default key counts as its text.
    split
    · exact further
    · refine List.forall_mem_cons.mpr ⟨.pairValue ?_ second, further⟩
      cases key.defaultText? with
      | none => exact .malformedAt depth
      | some text => exact .ok _
    · exact List.forall_mem_cons.mpr ⟨first.pairValue second, further⟩

/-- The pairs that a mapping takes from those that it merges. -/
theorem blames_mergedPairs (depth : Nat) :
    (pairs : List (Node × Node)) → BlamesAll (StopsAmongPairs pairs) (mergedPairs depth pairs)
  | [] => .ok (List.forall_mem_nil _)
  | (key, value) :: rest => by
    have further : BlamesAll (StopsAmongPairs ((key, value) :: rest)) (mergedPairs depth rest) :=
      (blames_mergedPairs depth rest).mono fun _ => .tail
    rw [mergedPairs.eq_def]
    dsimp only
    -- Only the value of a key to merge counts: a mapping, or a sequence of mappings.
    split
    · match value with
      | .scalar _ _ => exact ⟨.malformedAt depth, by rintro members ⟨⟩⟩
      | .enclosing => exact .append (.ok (List.forall_mem_nil _)) further
      | .sequence tag elements =>
        have merged := (blames_mergedElements depth elements).flatten
        exact .append (merged.mono fun kind ⟨_, member, stops⟩ =>
          ⟨_, .head _, .inr (.element member stops)⟩) further
      | .mapping tag pairs =>
        have merged := (blames_mergedPairs depth pairs).withMerged (blames_ownPairs depth pairs)
        exact .append (merged.mono fun kind stops => ⟨_, .head _, .inr stops.mapping⟩) further
    · exact further

theorem blames_mergedElements (depth : Nat) :
    (elements : List Node) → BlamesLists (StopsAmongNodes elements) (mergedElements depth elements)
  | [] => ⟨.ok [], by rintro lists ⟨⟩ list ⟨⟩⟩
  | .mapping tag pairs :: rest => by
    have first := (blames_mergedPairs depth pairs).withMerged (blames_ownPairs depth pairs)
    have further := blames_mergedElements depth rest
    rw [mergedElements]
    exact .cons (first.mono fun kind stops => ⟨_, .head _, stops.mapping⟩)
      (further.mono fun _ => .tail)
  | .enclosing :: rest => by
    rw [mergedElements]
    exact (blames_mergedElements depth rest).mono fun _ => .tail
  | .scalar _ _ :: _ | .sequence _ _ :: _ => ⟨.malformedAt depth, by rintro lists ⟨⟩⟩

end

end EntryPoint.Document.Yaml
