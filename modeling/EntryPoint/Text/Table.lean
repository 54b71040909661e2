/-
# Tables written as text

The tables of this library are words between blanks and line feeds. A word is a
set of code points or an entry: what is looked up, a colon, and what it stands
for.

## Main definitions

* `words` - the words of a table.
* `splitEntry` - the two sides of an entry.
* `codePointsOfText` - code points joined by plus signs.
-/

import EntryPoint.Text.Digits

namespace EntryPoint.Text

/-- The parts of a text between spaces and line feeds. -/
def words (text : String) : List String :=
  ((text.splitOn "\n").flatMap (·.splitOn " ")).filter (!·.isEmpty)

/-- The two sides of an entry of a table, around its colon. -/
def splitEntry (entry : String) : List Char × List Char :=
  (entry.toList.takeWhile (· ≠ ':'), (entry.toList.dropWhile (· ≠ ':')).drop 1)

/-- Code points in hexadecimal joined by plus signs. -/
def codePointsOfText (text : List Char) : List Nat :=
  ((String.ofList text).splitOn "+").map fun part => ofDigits 16 part.toList

end EntryPoint.Text
