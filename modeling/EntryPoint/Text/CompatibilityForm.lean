/-
# The compatibility normal form of names

Two spellings of a name are one name when their compatibility normal forms are
equal. The form decomposes every character fully, puts combining marks into
canonical order, and composes what can be composed. A name within ASCII is its
own normal form.

## Main definitions

* `decompose` - the full compatibility decomposition.
* `orderMarks` - the canonical order of combining marks.
* `compose` - canonical composition.
* `normalForm` - the three in sequence.
-/

import EntryPoint.Text.Character
import EntryPoint.Text.CompatibilityTable
import Std.Data.HashMap

namespace EntryPoint.Text

/-- The full decomposition of each character that has one. -/
def decompositions : Std.HashMap Nat (List Nat) :=
  (words decompositionText).foldl (fun table entry =>
    let (source, target) := splitEntry entry
    table.insert (ofDigits 16 source) (codePointsOfText target)) {}

/-- The combining class of each character where it is not zero. -/
def combiningClasses : Std.HashMap Nat Nat :=
  (words combiningClassText).foldl (fun table entry =>
    let (source, target) := splitEntry entry
    let (first, last) := Ranges.rangeOfText (String.ofList source)
    (List.range (last + 1 - first)).foldl (fun table offset =>
      table.insert (first + offset) (ofDigits 10 target)) table) {}

/-- The character to which a pair composes. -/
def compositions : Std.HashMap (Nat × Nat) Nat :=
  (words compositionText).foldl (fun table entry =>
    let (source, target) := splitEntry entry
    match codePointsOfText source with
    | [first, second] => table.insert (first, second) (ofDigits 16 target)
    | _ => table) {}

/-- The combining class of a code point; zero for a starter. -/
def combiningClass (codePoint : Nat) : Nat :=
  (combiningClasses[codePoint]?).getD 0

/-! ### Hangul syllables -/

/-- The jamo of a Hangul syllable, by the rule that numbers the syllables. -/
def decomposeHangul (codePoint : Nat) : List Nat :=
  let index := codePoint - 0xac00
  let lead := 0x1100 + index / 588
  let vowel := 0x1161 + index % 588 / 28
  let trail := 0x11a7 + index % 28
  if index % 28 = 0 then [lead, vowel] else [lead, vowel, trail]

/-- The syllable of a leading and a vowel jamo, or of an open syllable and a trailing jamo. -/
def composeHangul? (first second : Nat) : Option Nat :=
  if 0x1100 ≤ first ∧ first < 0x1113 ∧ 0x1161 ≤ second ∧ second < 0x1176 then
    some (0xac00 + ((first - 0x1100) * 21 + (second - 0x1161)) * 28)
  else if 0xac00 ≤ first ∧ first < 0xd7a4 ∧ (first - 0xac00) % 28 = 0 ∧
      0x11a7 < second ∧ second < 0x11c3 then
    some (first + (second - 0x11a7))
  else
    none

/-! ### The three steps -/

/-- The full decomposition of one code point. -/
def decomposeOne (codePoint : Nat) : List Nat :=
  if 0xac00 ≤ codePoint ∧ codePoint < 0xd7a4 then decomposeHangul codePoint
  else (decompositions[codePoint]?).getD [codePoint]

/-- The full decomposition of a text. -/
def decompose (text : List Nat) : List Nat :=
  text.flatMap decomposeOne

/-- Inserts a mark behind all marks of its class or a lower one. The list is the run of marks
read so far, last first. -/
def insertMark (mark : Nat) : List Nat → List Nat
  | [] => [mark]
  | last :: earlier =>
    if combiningClass mark < combiningClass last then last :: insertMark mark earlier
    else mark :: last :: earlier

/-- Sorts each run of combining marks by class and keeps the order within a class. -/
def orderMarks (text : List Nat) : List Nat :=
  let (done, run) := text.foldl (fun (done, run) codePoint =>
    if combiningClass codePoint = 0 then (codePoint :: (run ++ done), [])
    else (done, insertMark codePoint run)) (([] : List Nat), ([] : List Nat))
  (run ++ done).reverse

/-- The character that a starter and a later one compose to. -/
def composePair? (first second : Nat) : Option Nat :=
  (composeHangul? first second).or compositions[(first, second)]?

/-- The state of composition: the text before the last starter, that starter, and what follows it
so far, both lists last first. -/
structure Composition where
  done : List Nat
  starter : Option Nat
  marks : List Nat

namespace Composition

/-- Takes up the next code point: it merges into the starter when a composite exists and no mark
of the same or a higher class stands between. -/
def step (state : Composition) (codePoint : Nat) : Composition :=
  let kind := combiningClass codePoint
  let blocked := match state.marks with
    | [] => false
    | last :: _ => kind ≤ combiningClass last
  let merged := if blocked then none else state.starter.bind (composePair? · codePoint)
  match merged with
  | some composite => { state with starter := some composite }
  | none =>
    if kind = 0 then
      ⟨state.marks ++ state.starter.toList ++ state.done, some codePoint, []⟩
    else
      { state with marks := codePoint :: state.marks }

/-- The text composed so far. -/
def text (state : Composition) : List Nat :=
  (state.marks ++ state.starter.toList ++ state.done).reverse

end Composition

/-- Canonical composition. -/
def compose (text : List Nat) : List Nat :=
  (text.foldl Composition.step ⟨[], none, []⟩).text

/-- The compatibility normal form of a name. -/
def normalForm (name : String) : String :=
  if name.toList.all isAscii then name
  else
    String.ofList ((compose (orderMarks (decompose (name.toList.map Char.toNat)))).map Char.ofNat)

end EntryPoint.Text
