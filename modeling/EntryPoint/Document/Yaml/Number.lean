/-
# Numbers of YAML

The numbers that scalars of the number kinds stand for. Underscores do not
count, and numbers in parts joined by colons count sixties. The text of a scalar
whose kind is given by a tag need not have the form of a number; then it may
still be one, with blanks around it, a second sign, a mark of its base or digits
of another script.

## Main definitions

* `integerOf` - the integer of a scalar.
* `realOf` - the floating point number of a scalar.
-/

import EntryPoint.Decimal.Binary64
import EntryPoint.Document.Yaml.Flaw
import EntryPoint.Document.Yaml.Tag
import EntryPoint.Text.Character
import EntryPoint.Text.DecimalDigit

namespace EntryPoint.Document.Yaml

open Decimal Text

/-- Whether a text opens with a minus sign. -/
def isNegative (text : List Char) : Bool :=
  text.head? = some '-'

/-- The letter that marks a base behind a zero. -/
def baseLetter? (base : Nat) : Option Char :=
  [(2, 'b'), (8, 'o'), (16, 'x')].lookup base

/-- The text behind the mark of the base, if it opens with one. -/
def dropBaseMark (base : Nat) (text : List Char) : List Char :=
  match text with
  | '0' :: letter :: rest => if baseLetter? base = some letter.toLower then rest else text
  | _ => text

/-- The integer of digits in a base, with a sign, a mark of the base and blanks around. -/
def readInteger? (base : Nat) (text : List Char) : Option Int :=
  let trimmed := asciiDigits (trimBlanks text)
  let digits := dropBaseMark base (dropSign trimmed)
  if digits.isEmpty || !digits.all (isDigitOf base) then none
  -- Only numerals in base ten are limited in their length.
  else if base = 10 ∧ maxIntegerDigits < digits.length then none
  else some (Binary64.signed (isNegative trimmed) (ofDigits base digits))

/-- The integer of the last of some parts, each of which counts sixty times as much as the next. -/
def sixtiesOf (parts : List Int) : Int :=
  parts.foldl (fun total part => total * 60 + part) 0

/-- The integer of a scalar behind its sign. -/
def unsignedInteger? (text : List Char) : Option Int :=
  match text with
  | ['0'] => some 0
  | '0' :: 'b' :: rest => readInteger? 2 rest
  | '0' :: 'x' :: rest => readInteger? 16 rest
  | '0' :: _ => readInteger? 8 text
  | _ =>
    let (first, others) := splitAt ':' text
    ((first :: others).mapM (readInteger? 10)).map sixtiesOf

/-- A text without underscores. -/
def dropUnderscores (text : String) : List Char :=
  text.toList.filter (· ≠ '_')

/-- The integer of a scalar. -/
def integerOf (source : String) : Except Flaw Int :=
  let text := dropUnderscores source
  match dropSign text with
  | [] => .error (.unforeseen .emptyNumeral)
  | unsigned =>
    match unsignedInteger? unsigned with
    | some value => .ok (if isNegative text then -value else value)
    | none => .error (.unforeseen .value)

/-! ### Floating point numbers -/

/-- The exponent of a numeral: a mark and digits with a sign or without, or nothing. -/
def readExponent? : List Char → Option Int
  | [] => some 0
  | mark :: rest =>
    let digits := dropSign rest
    if mark = 'e' && !digits.isEmpty && digits.all Char.isDigit then
      some (Binary64.signed (isNegative rest) (ofDigits 10 digits))
    else none

/-- The number of a numeral without sign: digits with a point among or beside them, and an
exponent. -/
def readNumeral? (negative : Bool) (text : List Char) : Option Binary64 := do
  let whole := text.takeWhile Char.isDigit
  let rest := text.dropWhile Char.isDigit
  let (places, rest) := match rest with
    | '.' :: rest => (rest.takeWhile Char.isDigit, rest.dropWhile Char.isDigit)
    | rest => ([], rest)
  if whole.isEmpty && places.isEmpty then none
  else
    let exponent ← readExponent? rest
    some (.ofScientific negative (ofDigits 10 (whole ++ places)) (exponent - places.length))

/-- The number of a numeral or of a name, with a sign and blanks around. -/
def readReal? (text : List Char) : Option Binary64 :=
  let trimmed := asciiDigits (trimBlanks text)
  let negative := isNegative trimmed
  let unsigned := dropSign trimmed
  match String.ofList unsigned with
  | "inf" | "infinity" => some (.infinite negative)
  | "nan" => some .notANumber
  | _ => readNumeral? negative unsigned

/-- The number of parts, each of which counts sixty times as much as the next: the sum from the last
part on. The weight of a part must be within the range of the numbers. -/
def sixtiesReal : List Binary64 → Nat → Binary64 → Except Flaw Binary64
  | [], _, total => .ok total
  | part :: parts, weight, total =>
    match Binary64.ofInt weight with
    | .finite negative significand exponent =>
      sixtiesReal parts (weight * 60) (total.add (part.mul (.finite negative significand exponent)))
    | _ => .error (.unforeseen .overflow)

/-- The number of a scalar behind its sign. -/
def unsignedReal (text : List Char) : Except Flaw Binary64 :=
  match String.ofList text with
  | ".inf" => .ok (.infinite false)
  | ".nan" => .ok .notANumber
  | _ =>
    let (first, others) := splitAt ':' text
    match (first :: others).mapM readReal? with
    | none => .error (.unforeseen .value)
    | some [value] => .ok value
    | some values => sixtiesReal values.reverse 1 (.zero false)

/-- The floating point number of a scalar. -/
def realOf (source : String) : Except Flaw Binary64 := do
  let text := (dropUnderscores source).map Char.toLower
  if text.isEmpty then .error (.unforeseen .emptyNumeral)
  else do
    let value ← unsignedReal (dropSign text)
    .ok (if isNegative text then value.neg else value)

end EntryPoint.Document.Yaml
