/-
# Reading YAML

The value of a text. Where several nodes have no value, the one nearest to the
root decides which flaw is reported, and of those the first. A node that is found inside
of itself has no value of finite size: the text is refused, but for that reason only if
there is no other.

## Main definitions

* `scalarValue` - the value of a scalar of a kind.
* `Node.value` - the value of a node.
* `readYaml` - the value of a whole text.
-/

import EntryPoint.Document.Value
import EntryPoint.Document.Yaml.Binary
import EntryPoint.Document.Yaml.Node
import EntryPoint.Document.Yaml.Number

namespace EntryPoint.Document.Yaml

open Text

/-! ### Scalars -/

/-- The words for truth values. -/
def truthWords : List (String × Bool) :=
  [("yes", true), ("no", false), ("true", true), ("false", false), ("on", true), ("off", false)]

/-- The distance from universal time in minutes. -/
def StampZone.distance (zone : StampZone) : Int :=
  let minutes : Int := (zone.hour * 60 + zone.minute : Nat)
  if zone.negative then -minutes else minutes

/-- The microseconds of the digits of a fraction; digits beyond the sixth do not count. -/
def microseconds (fraction : List Char) : Nat :=
  ofDigits 10 ((fraction ++ List.replicate 6 '0').take 6)

/-- The date or moment of a point of time as written; the calendar and the clock must have it. -/
def Stamp.value (stamp : Stamp) : Except Flaw Value :=
  let date : Date := ⟨stamp.year, stamp.month, stamp.day⟩
  match stamp.time with
  | none => if date.isValid then .ok (.date date) else .error (.unforeseen .value)
  | some time =>
    let moment : Moment := {
      date
      hour := time.hour
      minute := time.minute
      second := time.second
      microsecond := microseconds time.fraction
      distance := time.zone.map StampZone.distance }
    if moment.isValid then .ok (.moment moment) else .error (.unforeseen .value)

/-- The value of a scalar of a kind that scalars have. -/
def scalarValue (tag : Tag) (source : String) : Except Flaw Value :=
  match tag with
  | .null => .ok .null
  | .truth =>
    match truthWords.lookup (lowerAscii source) with
    | some value => .ok (.truth value)
    | none => .error (.unforeseen .unknownTruth)
  | .integer => (integerOf source).map .integer
  | .real => (realOf source).map .real
  | .binary =>
    match bytesOf? source.toList with
    | some bytes => .ok (.bytes bytes)
    | none => .error .malformed
  | .timestamp =>
    match Stamp.ofText? (dropFinalBreak source.toList) with
    | some stamp => stamp.value
    | none => .error (.unforeseen .unreadableMoment)
  | .text => .ok (.text source)
  | _ => .error .malformed

mutual

/-- The text of a node that is taken as a scalar: a mapping stands for its default. -/
def Node.defaultText? : Node → Option String
  | .scalar _ text => some text
  | .sequence _ _ | .enclosing => none
  | .mapping _ pairs => defaultTextOf? pairs

/-- The text of the default among pairs. -/
def defaultTextOf? : List (Node × Node) → Option String
  | [] => none
  | (key, value) :: rest =>
    if key.tag = .default then value.defaultText? else defaultTextOf? rest

end

/-! ### Flaws at a depth -/

/-- A result, or a flaw with the depth at which it stands. -/
abbrev Placed (α : Type) := Except (Nat × Flaw) α

/-- Both results. Of two flaws, the one nearer to the root counts, and of equally near ones the
first. -/
def both {α β : Type} : Placed α → Placed β → Placed (α × β)
  | .ok a, .ok b => .ok (a, b)
  | .ok _, .error flaw => .error flaw
  | .error flaw, .ok _ => .error flaw
  | .error first, .error second => .error (if second.1 < first.1 then second else first)

/-- All results, or the flaw that counts. -/
def allOf {α : Type} : List (Placed α) → Placed (List α)
  | [] => .ok []
  | first :: rest => (both first (allOf rest)).map fun (value, others) => value :: others

/-- The same result at a depth. -/
def atDepth {α : Type} (depth : Nat) (result : Except Flaw α) : Placed α :=
  result.mapError fun flaw => (depth, flaw)

/-- A flaw of form at a depth. -/
def malformedAt {α : Type} (depth : Nat) : Placed α :=
  .error (depth, .malformed)

/-! ### Values of nodes -/

/-- Whether a kind is one of collections. -/
def Tag.isCollection : Tag → Bool
  | .sequence | .mapping | .orderedMapping | .pairs | .set => true
  | _ => false

/-- The pair of a key and a value, given the value of each. A collection is no key. -/
def pairValue (depth : Nat) (key value : Placed Value) : Placed (Value × Value) :=
  -- What is wrong inside of the key counts before that it is a collection.
  let key := key.bind fun key => if key.isKey then .ok key else malformedAt depth
  both key value

/-- The mapping of pairs; of equal keys the last value counts, at the place of the first. -/
def mappingOf (pairs : List (Value × Value)) : Value :=
  .mapping (pairs.foldl (fun pairs (key, value) => insertPair pairs key value) [])

/-- The set of the keys of pairs. -/
def setOf (pairs : List (Value × Value)) : Value :=
  .set ((pairs.foldl (fun pairs (key, value) => insertPair pairs key value) []).map (·.1))

/-- The pairs that a mapping merges before its own. -/
def withMerged (merged : Placed (List (Placed (Value × Value))))
    (own : List (Placed (Value × Value))) : Placed (List (Placed (Value × Value))) :=
  merged.map (· ++ own)

mutual

/-- The value of a node at a depth. Collections are looked into one level deeper. -/
def Node.value (depth : Nat) : Node → Placed Value
  | .scalar tag text =>
    if tag.isCollection then malformedAt (depth + 1) else atDepth depth (scalarValue tag text)
  | .sequence tag elements =>
    match tag with
    | .sequence => (allOf (valuesOf (depth + 1) elements)).map .list
    | .orderedMapping | .pairs =>
      (allOf (singlesOf (depth + 1) elements)).map fun pairs =>
        .list (pairs.map fun (key, value) => .pair key value)
    | _ => malformedAt (if tag.isCollection then depth + 1 else depth)
  | .mapping tag pairs =>
    match tag with
    | .mapping => do
      let pairs ← withMerged (mergedPairs (depth + 1) pairs) (ownPairs (depth + 1) pairs)
      (allOf pairs).map mappingOf
    | .set => do
      let pairs ← withMerged (mergedPairs (depth + 1) pairs) (ownPairs (depth + 1) pairs)
      (allOf pairs).map setOf
    -- A mapping with a default is no text, as the reader of points of time needs one.
    | .timestamp =>
      match defaultTextOf? pairs with
      | some _ => atDepth depth (.error (.unforeseen .type))
      | none => malformedAt depth
    | _ =>
      if tag.isCollection then malformedAt (depth + 1)
      else
        match defaultTextOf? pairs with
        | some text => atDepth depth (scalarValue tag text)
        | none => malformedAt depth
  -- While a collection is put together it is an empty one, which is no key.
  | .enclosing => .ok (.mapping [])

/-- The values of the elements of a sequence. -/
def valuesOf (depth : Nat) : List Node → List (Placed Value)
  | [] => []
  | element :: rest => element.value depth :: valuesOf depth rest

/-- The pairs of a sequence of mappings with one pair each. -/
def singlesOf (depth : Nat) : List Node → List (Placed (Value × Value))
  | [] => []
  | .mapping _ [(key, value)] :: rest =>
    both (key.value depth) (value.value depth) :: singlesOf depth rest
  | _ :: rest => malformedAt depth :: singlesOf depth rest

/-- The pairs of a mapping but for merges. The key of a default is text. -/
def ownPairs (depth : Nat) : List (Node × Node) → List (Placed (Value × Value))
  | [] => []
  | (key, value) :: rest =>
    match key.tag with
    -- What is merged has been put in front already.
    | .merge => ownPairs depth rest
    | .default =>
      pairValue depth ((key.defaultText?.map fun text => .ok (.text text)).getD (malformedAt depth))
        (value.value depth) :: ownPairs depth rest
    | _ => pairValue depth (key.value depth) (value.value depth) :: ownPairs depth rest

/-- The pairs that a mapping merges: those of a mapping, or those of the mappings of a sequence from
the last one on. -/
def mergedPairs (depth : Nat) : List (Node × Node) → Placed (List (Placed (Value × Value)))
  | [] => .ok []
  | (key, value) :: rest =>
    if key.tag = .merge then do
      let first ← match value with
        | .mapping _ pairs => withMerged (mergedPairs depth pairs) (ownPairs depth pairs)
        -- Of equal keys the one further behind counts, and the mappings in front are to win.
        | .sequence _ elements => (mergedElements depth elements).map (·.reverse.flatten)
        | .scalar _ _ => malformedAt depth
        -- What a node around has is not known yet.
        | .enclosing => .ok []
      .ok (first ++ (← mergedPairs depth rest))
    else mergedPairs depth rest

/-- The pairs of each mapping of a sequence that is merged. -/
def mergedElements (depth : Nat) : List Node → Placed (List (List (Placed (Value × Value))))
  | [] => .ok []
  | .mapping _ pairs :: rest => do
    let first ← withMerged (mergedPairs depth pairs) (ownPairs depth pairs)
    .ok (first :: (← mergedElements depth rest))
  | .enclosing :: rest => mergedElements depth rest
  | _ :: _ => malformedAt depth

end

/-! ### Texts -/

/-- The characters that a text may have: no controls but tab and line ends, and no code points that
are set apart. -/
def isAllowed (c : Char) : Bool :=
  let n := c.toNat
  c = '\t' || c = '\n' || c = '\r' || (0x20 ≤ n && n ≤ 0x7e) || n = 0x85 ||
    (0xa0 ≤ n && n ≤ 0xfffd) || 0x10000 ≤ n

/-- The value of a whole text; null if it holds no document. -/
def readYaml (source : String) : Except Flaw Value := do
  let text := source.toList
  if !text.all isAllowed then .error .malformed
  else
    match ← nodeOf text with
    | none => .ok .null
    | some node =>
      let value ← (node.value 0).mapError (·.2)
      if node.isEndless then .error .malformed else .ok value

end EntryPoint.Document.Yaml
