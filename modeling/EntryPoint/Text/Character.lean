/-
# Character classes

The classes that decide how text is shown and trimmed.

## Main definitions

* `isPrintable` - characters that a quoted literal shows as they are.
* `isBlank` - characters that trimming removes.
* `isIdentifierStart`, `isIdentifierRest` - characters of a name.

Each is decided by a plain comparison on ASCII and by a table beyond it.
-/

import EntryPoint.Text.IdentifierTable
import EntryPoint.Text.PrintableTable

namespace EntryPoint.Text

/-- Whether a character is within ASCII. -/
def isAscii (c : Char) : Bool :=
  c.toNat < 128

/-- Letters, marks, numbers, punctuation, symbols and the space. -/
def isPrintable (c : Char) : Bool :=
  if isAscii c then 32 ≤ c.toNat && c.toNat < 127
  else printableBeyondAscii.contains c.toNat

/-- White space: the Unicode separators, the line and paragraph breaks, and the ASCII controls
from tab to carriage return and from file to unit separator. -/
def isBlank (c : Char) : Bool :=
  let n := c.toNat
  (9 ≤ n && n ≤ 13) || (28 ≤ n && n ≤ 32) || n == 0x85 || n == 0xa0 || n == 0x1680 ||
    (0x2000 ≤ n && n ≤ 0x200a) || n == 0x2028 || n == 0x2029 || n == 0x202f || n == 0x205f ||
    n == 0x3000

/-- Whether a character may open a name. -/
def isIdentifierStart (c : Char) : Bool :=
  if isAscii c then c.isAlpha || c == '_'
  else identifierStartBeyondAscii.contains c.toNat

/-- Whether a character may continue a name. -/
def isIdentifierRest (c : Char) : Bool :=
  if isAscii c then c.isAlphanum || c == '_'
  else identifierRestBeyondAscii.contains c.toNat

/-- The text without blanks at either end. -/
def trimBlanks (text : List Char) : List Char :=
  ((text.dropWhile isBlank).reverse.dropWhile isBlank).reverse

/-- Whether a text holds nothing but blanks. -/
def isAllBlank (text : List Char) : Bool :=
  text.all isBlank

/-- The ASCII letters in lower case, all else unchanged. -/
def lowerAscii (text : String) : String :=
  text.map Char.toLower

end EntryPoint.Text
