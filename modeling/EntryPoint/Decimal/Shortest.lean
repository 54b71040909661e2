/-
# The shortest decimal text of a binary number

A finite number is written with the fewest digits that read back to it; among
numerals of that length the nearest is taken, and an exact tie goes to the even
digit. Where the point and the exponent stand is decided by a `Layout`.

## Main definitions

* `Interval` - the decimals that round to a number.
* `shortest` - its shortest digits and the place of the point.
* `Layout.text` - the written form.
-/

import EntryPoint.Decimal.Binary64
import EntryPoint.Text.Digits

namespace EntryPoint.Decimal

/-- The numbers that round to one binary number, as multiples of `1 / unit`: from `low` to `high`
around `value`, the ends included or not. -/
structure Interval where
  low : Nat
  value : Nat
  high : Nat
  unit : Nat
  closed : Bool

/-- The interval of a positive number `significand * 2 ^ exponent`. Below a power of two the
neighbour is at half the distance. -/
def Interval.ofBinary (significand : Nat) (exponent : Int) : Interval :=
  let narrow := significand = Binary64.leastNormal ∧ Binary64.minExponent < exponent
  let below := if narrow then 1 else 2
  let (scale, unit) := Binary64.scaledRatio 1 1 (2 - exponent)
  { low := (4 * significand - below) * scale
    value := 4 * significand * scale
    high := (4 * significand + 2) * scale
    unit := unit
    closed := significand % 2 = 0 }

/-- Whether `n * 10 ^ exponent` lies in the interval. -/
def Interval.contains (interval : Interval) (n : Nat) (exponent : Int) : Bool :=
  let (point, scale) :=
    if 0 ≤ exponent then (n * Nat.pow 10 exponent.toNat * interval.unit, 1)
    else (n * interval.unit, Nat.pow 10 (-exponent).toNat)
  if interval.closed then interval.low * scale ≤ point && point ≤ interval.high * scale
  else interval.low * scale < point && point < interval.high * scale

/-- The two neighbours of the value on the grid of multiples of `10 ^ exponent`, and whether the
lower one is at most as far as the upper one; at equal distance the even one counts as nearer. -/
def Interval.neighbours (interval : Interval) (exponent : Int) : Nat × Bool :=
  let (value, grid) :=
    if 0 ≤ exponent then (interval.value, interval.unit * Nat.pow 10 exponent.toNat)
    else (interval.value * Nat.pow 10 (-exponent).toNat, interval.unit)
  let lower := value / grid
  let twice := 2 * (value % grid)
  (lower, if twice = grid then lower % 2 = 0 else twice < grid)

/-- The numeral on the grid of `10 ^ exponent` that reads back, if there is one. -/
def Interval.pick? (interval : Interval) (exponent : Int) : Option Nat :=
  let (lower, lowerIsNearer) := interval.neighbours exponent
  let first := if lowerIsNearer then lower else lower + 1
  let second := if lowerIsNearer then lower + 1 else lower
  if interval.contains first exponent then some first
  else if interval.contains second exponent then some second
  else none

/-- Tries grids from coarse to fine. -/
def Interval.search (interval : Interval) : Nat → Int → Nat × Int
  | 0, exponent => ((interval.neighbours exponent).1, exponent)
  | steps + 1, exponent =>
    match interval.pick? exponent with
    | some n => (n, exponent)
    | none => interval.search steps (exponent - 1)

/-- Moves trailing zeros from a numeral into its exponent. -/
def dropTrailingZeros : List Char → List Char
  | digits => (digits.reverse.dropWhile (· = '0')).reverse

/-- The shortest digits of a positive number and the place of the point: the number reads
`0.d₁d₂… * 10 ^ point`. -/
def shortest (significand : Nat) (exponent : Int) : List Char × Int :=
  let interval := Interval.ofBinary significand exponent
  let top : Int := (((significand.log2 : Int) + exponent) * 30103) / 100000 + 1
  let (n, exponent) := interval.search 20 top
  let digits := Text.numeral 10 n
  (dropTrailingZeros digits, exponent + digits.length)

/-- How a format writes floating point numbers. -/
structure Layout where
  /-- Points up to this many digits behind the front are written without exponent. -/
  maxPoint : Int
  /-- Points down to this many zeros before the digits are written without exponent. -/
  minPoint : Int
  /-- Whether an integral number keeps a point and a zero. -/
  keepsPoint : Bool
  infinity : String
  notANumber : String

/-- The text of an exponent: a sign and at least two digits. -/
def exponentText (exponent : Int) : String :=
  let sign := if exponent < 0 then "e-" else "e+"
  sign ++ String.ofList (Text.paddedNumeral 10 2 exponent.natAbs)

/-- Digits with the point at its place. -/
def Layout.positional (layout : Layout) (digits : List Char) (point : Int) : String :=
  if point ≤ 0 then
    "0." ++ String.ofList (List.replicate (-point).toNat '0' ++ digits)
  else if digits.length ≤ point.toNat then
    String.ofList (digits ++ List.replicate (point.toNat - digits.length) '0') ++
      (if layout.keepsPoint then ".0" else "")
  else
    String.ofList (digits.take point.toNat) ++ "." ++ String.ofList (digits.drop point.toNat)

/-- Digits with the point behind the first and an exponent. -/
def Layout.scientific (digits : List Char) (point : Int) : String :=
  match digits with
  | [] => "0"
  | [only] => String.singleton only ++ exponentText (point - 1)
  | first :: rest =>
    String.singleton first ++ "." ++ String.ofList rest ++ exponentText (point - 1)

/-- The text of a number without its sign. -/
def Layout.magnitude (layout : Layout) (significand : Nat) (exponent : Int) : String :=
  if significand = 0 then (if layout.keepsPoint then "0.0" else "0")
  else
    let (digits, point) := shortest significand exponent
    if layout.minPoint < point ∧ point ≤ layout.maxPoint then layout.positional digits point
    else Layout.scientific digits point

/-- The text of a number. -/
def Layout.text (layout : Layout) : Binary64 → String
  | .finite negative significand exponent =>
    (if negative then "-" else "") ++ layout.magnitude significand exponent
  | .infinite negative => (if negative then "-" else "") ++ layout.infinity
  | .notANumber => layout.notANumber

end EntryPoint.Decimal
