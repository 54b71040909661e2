/-
# Sets of characters given by ranges

A character class is an array of inclusive code point ranges. `Ranges.ofText`
reads one from text such as `"41-5a 5f"`, the form in which the tables of this
library are written.
-/

import EntryPoint.Text.Table

namespace EntryPoint.Text

/-- Inclusive ranges of code points. -/
abbrev Ranges := Array (Nat × Nat)

namespace Ranges

/-- Whether a code point lies in one of the ranges. -/
def contains (ranges : Ranges) (codePoint : Nat) : Bool :=
  ranges.any fun (first, last) => first ≤ codePoint && codePoint ≤ last

/-- One range: two hexadecimal numbers joined by a hyphen, or a single one. -/
def rangeOfText (text : String) : Nat × Nat :=
  let first := text.toList.takeWhile (· ≠ '-')
  match text.toList.dropWhile (· ≠ '-') with
  | [] => (ofDigits 16 first, ofDigits 16 first)
  | _ :: last => (ofDigits 16 first, ofDigits 16 last)

/-- Ranges separated by blanks. -/
def ofText (text : String) : Ranges :=
  ((words text).map rangeOfText).toArray

end Ranges

end EntryPoint.Text
