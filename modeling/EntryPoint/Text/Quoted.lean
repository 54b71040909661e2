/-
# Quoted literals

Text between quotes, on one line. The quote is single unless the text holds a
single quote and no double one. Inside, a backslash and the quote itself are
escaped by a backslash, tab, line feed and carriage return have letters of
their own, and every other character that is not printable is written by its
code point.

## Main definitions

* `escapeCode` - the escape of a character by letter or code point.
* `quote` - the quoted literal of a text.
* `quoteBytes` - the quoted literal of bytes, with its mark.
-/

import EntryPoint.Text.Character

namespace EntryPoint.Text

/-- The escape of a character: `\t`, `\n`, `\r`, a doubled backslash, or its code point in two,
four or eight hexadecimal digits. -/
def escapeCode (c : Char) : List Char :=
  if c = '\t' then ['\\', 't']
  else if c = '\n' then ['\\', 'n']
  else if c = '\r' then ['\\', 'r']
  else if c = '\\' then ['\\', '\\']
  else if c.toNat < 0x100 then '\\' :: 'x' :: paddedNumeral 16 2 c.toNat
  else if c.toNat < 0x10000 then '\\' :: 'u' :: paddedNumeral 16 4 c.toNat
  else '\\' :: 'U' :: paddedNumeral 16 8 c.toNat

/-- A character as it stands between two `mark`s. -/
def escapeWithin (mark c : Char) : List Char :=
  if c = mark then ['\\', c]
  else if c = '\\' || !isPrintable c then escapeCode c
  else [c]

/-- The quote that needs the fewer escapes: double when the text holds a single quote and no
double one. -/
def quoteMark (text : List Char) : Char :=
  if text.contains '\'' && !text.contains '"' then '"' else '\''

/-- The characters of the quoted literal of a text. -/
def quoteChars (text : List Char) : List Char :=
  let mark := quoteMark text
  mark :: text.flatMap (escapeWithin mark) ++ [mark]

/-- The quoted literal of a text. -/
def quote (text : String) : String :=
  String.ofList (quoteChars text.toList)

/-- A byte as it stands between two `mark`s: printable ASCII as it is, all else escaped. -/
def escapeByteWithin (mark : Char) (byte : UInt8) : List Char :=
  let c := Char.ofNat byte.toNat
  if c = mark then ['\\', c]
  else if c = '\\' || byte < 32 || 127 ≤ byte then escapeCode c
  else [c]

/-- The quoted literal of bytes, opened by the letter `b`. -/
def quoteBytes (bytes : List UInt8) : String :=
  let mark := quoteMark (bytes.map fun byte => Char.ofNat byte.toNat)
  String.ofList ('b' :: mark :: bytes.flatMap (escapeByteWithin mark) ++ [mark])

end EntryPoint.Text
