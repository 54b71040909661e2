/-
# A place in a text

A cursor is the text that lies ahead together with the place reached: the number
of characters passed, the line and the column. A line ends with a line feed, a
carriage return, both in that order, a next line, or one of the two separators;
only the separators survive as themselves when a line break is read.

## Main definitions

* `Cursor.next`, `Cursor.skip` - going on by characters.
* `Cursor.span` - the characters of a class.
* `Cursor.lineBreak?` - a line break as one character.
* `Cursor.skipToBreak`, `Cursor.restOfLine` - a comment and the end of its line.
-/

import EntryPoint.Text.Character

namespace EntryPoint.Document.Yaml

/-- The characters that end a line. -/
def isBreak (c : Char) : Bool :=
  c = '\n' || c = '\r' || c = '\x85' || c = '\u2028' || c = '\u2029'

/-- Spaces, tabs and the characters that end a line. -/
def isGap (c : Char) : Bool :=
  c = ' ' || c = '\t' || isBreak c

/-- Whether a line ends here: the text does, or the character is a line break. -/
def endsLine (next : Option Char) : Bool :=
  (next.map isBreak).getD true

/-- Whether the end of a line or a space is here. -/
def endsField (next : Option Char) : Bool :=
  next = some ' ' || endsLine next

/-- Whether the end of a line, a space or a tab is here. -/
def endsWord (next : Option Char) : Bool :=
  (next.map isGap).getD true

/-- Letters, digits, hyphen and underscore within ASCII. -/
def isWord (c : Char) : Bool :=
  c.isAlphanum || c = '-' || c = '_'

/-- The text ahead and the place reached. -/
structure Cursor where
  rest : List Char
  index : Nat := 0
  line : Nat := 0
  column : Nat := 0

namespace Cursor

/-- The next character. -/
def peek? (cursor : Cursor) : Option Char :=
  cursor.rest.head?

/-- The character after so many others. -/
def peekAt? (cursor : Cursor) (count : Nat) : Option Char :=
  cursor.rest[count]?

/-- Whether the next character is the given one. -/
def isAt (cursor : Cursor) (c : Char) : Bool :=
  cursor.peek? = some c

/-- The cursor behind the next character. A byte order mark has no width. -/
def next (cursor : Cursor) : Cursor :=
  match cursor.rest with
  | [] => cursor
  | c :: rest =>
    let ended := isBreak c && !(c = '\r' && rest.head? = some '\n')
    { rest
      index := cursor.index + 1
      line := if ended then cursor.line + 1 else cursor.line
      column := if ended then 0 else if c = '\ufeff' then cursor.column else cursor.column + 1 }

/-- The cursor behind so many characters. -/
def skip (cursor : Cursor) : Nat → Cursor
  | 0 => cursor
  | count + 1 => cursor.next.skip count

/-- The characters of a class up to the first other one, and the cursor there. -/
def span (cursor : Cursor) (p : Char → Bool) : List Char × Cursor :=
  let chars := cursor.rest.takeWhile p
  (chars, cursor.skip chars.length)

/-- The cursor behind all characters of a class. -/
def skipWhile (cursor : Cursor) (p : Char → Bool) : Cursor :=
  (cursor.span p).2

/-- The cursor behind all spaces. -/
def skipSpaces (cursor : Cursor) : Cursor :=
  cursor.skipWhile (· = ' ')

/-- The cursor behind the spaces, but at most in the given column. -/
def skipSpacesTo (cursor : Cursor) (column : Nat) : Cursor :=
  cursor.skip (min (cursor.span (· = ' ')).1.length (column - cursor.column))

/-- The line break here as one character, and the cursor behind it. -/
def lineBreak? (cursor : Cursor) : Option (Char × Cursor) :=
  match cursor.rest with
  | '\r' :: '\n' :: _ => some ('\n', cursor.skip 2)
  | c :: _ =>
    if c = '\u2028' ∨ c = '\u2029' then some (c, cursor.next)
    else if isBreak c then some ('\n', cursor.next)
    else none
  | [] => none

/-- The cursor at the end of the line. -/
def skipToBreak (cursor : Cursor) : Cursor :=
  cursor.skipWhile fun c => !isBreak c

/-- The cursor behind the comment here, if there is one. -/
def skipComment (cursor : Cursor) : Cursor :=
  if cursor.isAt '#' then cursor.skipToBreak else cursor

/-- The cursor behind the line break here, if there is one. -/
def skipBreak (cursor : Cursor) : Cursor :=
  (cursor.lineBreak?.map (·.2)).getD cursor

/-- The cursor on the next line, if nothing but spaces and a comment is left on this one. -/
def restOfLine (cursor : Cursor) : Option Cursor :=
  let cursor := cursor.skipSpaces.skipComment
  if endsLine cursor.peek? then some cursor.skipBreak else none

/-- Whether three hyphens or three points stand here alone. -/
def isAtSeparator (cursor : Cursor) : Bool :=
  let mark := cursor.rest.take 3
  (mark = ['-', '-', '-'] || mark = ['.', '.', '.']) && endsWord (cursor.peekAt? 3)

end Cursor

end EntryPoint.Document.Yaml
