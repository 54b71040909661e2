/-
# Escapes

What the characters between quotes stand for. A backslash and what follows it may
name one character; an escape that is not known stands for itself, and a backslash
in front of a line feed for nothing.

## Main definitions

* `textEscape`, `byteEscape` - what the characters behind a backslash stand for.
* `decodeWith` - a body with its escapes replaced.
* `Literal.text?`, `Literal.bytes?` - the value of a literal.
-/

import EntryPoint.Syntax.Token
import EntryPoint.Text.Character
import EntryPoint.Text.CharacterName

namespace EntryPoint.Syntax

open Text

/-- What an escape stands for, and how many characters behind the backslash it takes up. -/
abbrev Escape := List Char × Nat

/-- The escapes of one letter and the characters they stand for. -/
def letterEscapes : List (Char × Nat) :=
  [('\\', 92), ('\'', 39), ('"', 34), ('a', 7), ('b', 8), ('f', 12), ('n', 10), ('r', 13),
    ('t', 9), ('v', 11)]

/-- The character of a code point; there is none for a surrogate or beyond the last plane. -/
def characterOf? (codePoint : Nat) : Option Char :=
  if codePoint.isValidChar then some (Char.ofNat codePoint) else none

/-- The number of exactly so many digits of base sixteen. -/
def fixedHex? (width : Nat) (text : List Char) : Option Nat :=
  let digits := text.take width
  if digits.length = width ∧ digits.all (isDigitOf 16) then some (ofDigits 16 digits) else none

/-- The escapes that a text and bytes share, given how a code point above ASCII is written: line
feeds, letters, up to three octal digits, and two hexadecimal ones. -/
def sharedEscape? (ofCode : Nat → List Char) (text : List Char) : Option (Option Escape) :=
  match text with
  | [] => some (some (['\\'], 0))
  | '\n' :: _ => some (some ([], 1))
  | c :: rest =>
    match letterEscapes.lookup c with
    | some code => some (some (ofCode code, 1))
    | none =>
      if isDigitOf 8 c then
        -- Up to three digits belong to the escape.
        let digits := (text.take 3).takeWhile (isDigitOf 8)
        some (some (ofCode (ofDigits 8 digits), digits.length))
      else if c = 'x' then (fixedHex? 2 rest).map fun code => some (ofCode code, 3)
      else some none

/-- An escape by code point or name. -/
def codePointEscape? (text : List Char) : Option Escape :=
  match text with
  | 'u' :: rest => do
    let c ← (fixedHex? 4 rest).bind characterOf?
    some ([c], 5)
  | 'U' :: rest => do
    let c ← (fixedHex? 8 rest).bind characterOf?
    some ([c], 9)
  | 'N' :: '\x7b' :: rest => do
    let name := rest.takeWhile (· ≠ '\x7d')
    let c ← characterOfName? (String.ofList name)
    -- The closing brace must be there.
    if name.length < rest.length then some ([c], name.length + 3) else none
  | _ => none

/-- What the characters behind a backslash stand for in a text. -/
def textEscape (text : List Char) : Option Escape :=
  match sharedEscape? (fun code => [Char.ofNat code]) text with
  | none => none
  | some (some escape) => some escape
  | some none =>
    match text with
    | [] => none
    | c :: _ =>
      -- A backslash in front of any other character stays.
      if c = 'u' ∨ c = 'U' ∨ c = 'N' then codePointEscape? text else some (['\\', c], 1)

/-- What the characters behind a backslash stand for in bytes; a byte is given as the character of
its number. -/
def byteEscape (text : List Char) : Option Escape :=
  match sharedEscape? (fun code => [Char.ofNat (code % 256)]) text with
  | none => none
  | some (some escape) => some escape
  | some none => some ('\\' :: text.take 1, 1)

/-- A body with its escapes replaced, where so many characters still belong to the last escape. -/
def decodeFrom (escape : List Char → Option Escape) : Nat → List Char → Option (List Char)
  | _, [] => some []
  | skip + 1, _ :: rest => decodeFrom escape skip rest
  | 0, c :: rest =>
    if c = '\\' then do
      let (text, length) ← escape rest
      return text ++ (← decodeFrom escape length rest)
    else (decodeFrom escape 0 rest).map (c :: ·)

/-- A body with its escapes replaced. -/
def decodeWith (escape : List Char → Option Escape) (body : List Char) : Option (List Char) :=
  decodeFrom escape 0 body

/-- The text that a body stands for. -/
def decodeText (isRaw : Bool) (body : List Char) : Option (List Char) :=
  if isRaw then some body else decodeWith textEscape body

/-- The bytes that a body within ASCII stands for. -/
def decodeBytes (isRaw : Bool) (body : List Char) : Option (List UInt8) :=
  if !body.all isAscii then none
  else
    (if isRaw then some body else decodeWith byteEscape body).map
      (·.map fun c => UInt8.ofNat c.toNat)

end EntryPoint.Syntax
