/-
# Numerals

A numeral is written in base two, eight, ten or sixteen, with single underscores
between digits. A fraction or an exponent makes it a real number and a final `j`
an imaginary one. What follows must not continue it as a word would; a few words
of the language are let through.

## Main definitions

* `digitRun` - digits with underscores between them.
* `endsNumeral` - whether a numeral may end before a text.
* `scanNumeral` - the numeral at the front of a text.
-/

import EntryPoint.Syntax.Tree
import EntryPoint.Text.Character

namespace EntryPoint.Syntax

open Decimal Text

/-- Whether a character can stand inside a word; beyond ASCII every character counts. -/
def isWordCharacter (c : Char) : Bool :=
  !isAscii c || isIdentifierRest c

/-- The digits of the base at the front of a text, without the single underscores between them;
fails where an underscore has no digit behind it. -/
def digitRun (base : Nat) : List Char → Option (List Char × List Char)
  | [] => some ([], [])
  | '_' :: [] => none
  | '_' :: c :: rest => if isDigitOf base c then digitRun base (c :: rest) else none
  | c :: rest =>
    if isDigitOf base c then (digitRun base rest).map fun (digits, rest) => (c :: digits, rest)
    else some ([], c :: rest)

/-- Whether a text opens with a word that ends there. -/
def opensWithWord (word : String) (text : List Char) : Bool :=
  word.toList.isPrefixOf text &&
    ((text.drop word.length).head?.map (!isWordCharacter ·)).getD true

/-- Whether a numeral may end before a text: no word follows, or one of the words that may stand
between numbers. -/
def endsNumeral (rest : List Char) : Bool :=
  match rest with
  | [] => true
  | c :: _ =>
    !isWordCharacter c ||
      ["and", "else", "for", "not", "or"].any (opensWithWord · rest) ||
      ["if", "in", "is"].any (·.toList.isPrefixOf rest)

/-- A numeral in a base that its opening named. -/
def scanBased (base : Nat) (text : List Char) : Option (Constant × List Char) := do
  let (digits, rest) ← digitRun base text
  if digits.isEmpty || !endsNumeral rest then none
  else some (.integer (ofDigits base digits), rest)

/-- The digits behind a point, if there is a point. -/
def scanFraction (text : List Char) : Option (Option (List Char) × List Char) :=
  match text with
  | '.' :: c :: rest =>
    if isDigitOf 10 c then (digitRun 10 (c :: rest)).map fun (digits, rest) => (some digits, rest)
    else some (some [], c :: rest)
  | ['.'] => some (some [], [])
  | _ => some (none, text)

/-- The digits of an exponent with its sign. -/
def scanSigned (negative : Bool) (text : List Char) : Option (Option Int × List Char) := do
  let (digits, rest) ← digitRun 10 text
  if digits.isEmpty then none
  else some (some (Binary64.signed negative (ofDigits 10 digits)), rest)

/-- The exponent, if there is one. The letter alone is none. -/
def scanExponent (text : List Char) : Option (Option Int × List Char) :=
  match text with
  | mark :: rest =>
    if mark = 'e' ∨ mark = 'E' then
      match rest with
      | '+' :: rest => scanSigned false rest
      | '-' :: rest => scanSigned true rest
      | c :: _ => if isDigitOf 10 c then scanSigned false rest else some (none, text)
      | [] => some (none, text)
    else some (none, text)
  | [] => some (none, text)

/-- A numeral in base ten. A whole number other than zero opens with no zero and has no more digits
than the limit. -/
def scanDecimal (text : List Char) : Option (Constant × List Char) := do
  let (whole, rest) ← digitRun 10 text
  let (fraction, rest) ← scanFraction rest
  let (exponent, rest) ← scanExponent rest
  let places := fraction.getD []
  let value :=
    -- The digits behind the point lower the exponent, and only the whole numeral is rounded.
    Binary64.ofScientific false (ofDigits 10 (whole ++ places)) (exponent.getD 0 - places.length)
  match rest with
  | 'j' :: rest | 'J' :: rest => if endsNumeral rest then some (.imaginary value, rest) else none
  | rest =>
    if !endsNumeral rest then none
    else if fraction.isSome || exponent.isSome then some (.real value, rest)
    else
      let n := ofDigits 10 whole
      if n ≠ 0 ∧ (whole.head? = some '0' ∨ maxIntegerDigits < whole.length) then none
      else some (.integer n, rest)

/-- The numeral at the front of a text that opens with a digit or a point. -/
def scanNumeral (text : List Char) : Option (Constant × List Char) :=
  match text with
  | '0' :: mark :: rest =>
    if mark = 'x' ∨ mark = 'X' then scanBased 16 rest
    else if mark = 'o' ∨ mark = 'O' then scanBased 8 rest
    else if mark = 'b' ∨ mark = 'B' then scanBased 2 rest
    else scanDecimal text
  | _ => scanDecimal text

end EntryPoint.Syntax
