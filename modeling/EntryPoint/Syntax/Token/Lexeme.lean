/-
# Lexemes

A module is read line by line: each line that holds more than blanks and a
comment leaves its indentation, its words, and its break. Blanks, comments and
breaks behind a backslash leave nothing. Quoted literals may span lines.

## Main definitions

* `scanLiteral` - the quoted literal at the front of a text.
* `scanToken` - the word at the front of a text.
* `Indentation.measure` - the width of the blanks at the start of a line.
* `lexemes` - the lexemes of a text.
-/

import EntryPoint.Syntax.Token
import EntryPoint.Syntax.Token.Numeral
import EntryPoint.Text.Identifier

namespace EntryPoint.Syntax

open Text

/-! ### Quoted literals -/

/-- The characters up to a single closing quote on the same line. A backslash keeps the character
behind it. -/
def scanShortBody (mark : Char) : List Char → Option (List Char × List Char)
  | [] => none
  | '\\' :: c :: rest =>
    (scanShortBody mark rest).map fun (body, rest) => ('\\' :: c :: body, rest)
  | c :: rest =>
    -- A literal in short quotes ends on its line.
    if c = mark then some ([], rest)
    else if c = '\n' then none
    else (scanShortBody mark rest).map fun (body, rest) => (c :: body, rest)

/-- The characters up to three closing quotes. -/
def scanLongBody (mark : Char) : List Char → Option (List Char × List Char)
  | [] => none
  | '\\' :: c :: rest =>
    (scanLongBody mark rest).map fun (body, rest) => ('\\' :: c :: body, rest)
  | c :: rest =>
    if c = mark ∧ [mark, mark].isPrefixOf rest then some ([], rest.drop 2)
    else (scanLongBody mark rest).map fun (body, rest) => (c :: body, rest)

/-- The characters between the quotes that open a text. -/
def scanQuoted (text : List Char) : Option (List Char × List Char) :=
  match text with
  | [] => none
  | mark :: rest =>
    -- Two more quotes open a long literal. Two quotes in all are an empty one.
    if [mark, mark].isPrefixOf rest then scanLongBody mark (rest.drop 2)
    else scanShortBody mark rest

/-- The meaning of the letters in front of a literal: what it holds and whether it is raw. -/
def literalKind? (letters : List Char) : Option (LiteralKind × Bool) :=
  match letters.map Char.toLower with
  | [] | ['u'] => some (.text, false)
  | ['r'] => some (.text, true)
  | ['b'] => some (.bytes, false)
  | ['b', 'r'] | ['r', 'b'] => some (.bytes, true)
  | ['f'] => some (.parts, false)
  | ['f', 'r'] | ['r', 'f'] => some (.parts, true)
  | _ => none

/-- The letters in front of a quote, and the text from the quote on. -/
def splitLetters (text : List Char) : List Char × List Char :=
  (text.takeWhile Char.isAlpha, text.dropWhile Char.isAlpha)

/-- Whether a text opens with a quoted literal. -/
def opensLiteral (text : List Char) : Bool :=
  let (letters, rest) := splitLetters text
  (literalKind? letters).isSome && (rest.head? = some '\'' || rest.head? = some '"')

/-- The quoted literal at the front of a text. -/
def scanLiteral (text : List Char) : Option (Literal × List Char) := do
  let (letters, rest) := splitLetters text
  let (kind, isRaw) ← literalKind? letters
  let (body, rest) ← scanQuoted rest
  some (⟨kind, isRaw, letters = ['u'], body⟩, rest)

/-! ### Words -/

/-- The word made of a run of word characters. A word within ASCII may be reserved; another one is
a name. -/
def Token.ofWord? (word : String) : Option Token :=
  if isKeyword word then some (.keyword word)
  else if word.toList.all isAscii then some (.name word true)
  -- Beyond ASCII a name stands for its normal form. One that is spelled otherwise is never read as
  -- a word such as `match`.
  else if isIdentifier word then some (.name (normalForm word) (normalForm word = word))
  else none

/-- Whether a text opens with a numeral. -/
def opensNumeral (text : List Char) : Bool :=
  match text with
  | '.' :: c :: _ => c.isDigit
  | c :: _ => c.isDigit
  | [] => false

/-- The word at the front of a text that opens with no blank. -/
def scanToken (text : List Char) : Option (Token × List Char) :=
  match text with
  | [] => none
  | first :: _ =>
    if opensLiteral text then
      (scanLiteral text).map fun (literal, rest) => (.literal literal, rest)
    else if opensNumeral text then
      (scanNumeral text).map fun (value, rest) => (.number value, rest)
    else if isWordCharacter first then
      (Token.ofWord? (String.ofList (text.takeWhile isWordCharacter))).map fun token =>
        (token, text.dropWhile isWordCharacter)
    else
      (symbols.find? (·.toList.isPrefixOf text)).map fun symbol =>
        (.symbol symbol, text.drop symbol.length)

/-! ### Indentation -/

/-- The width of the blanks at the start of a line, once with tabs up to the next multiple of eight
and once with tabs of one column. Both must order lines alike. -/
structure Indentation where
  wide : Nat
  narrow : Nat
  deriving DecidableEq

namespace Indentation

/-- The width of the blanks at the front of a text, counted on from a given width. A form feed
starts anew. Where a backslash joins lines, the first line that is indented settles the width. -/
def measure (width : Indentation) (settled : Nat) :
    List Char → Option (Indentation × List Char)
  | ' ' :: rest => measure ⟨width.wide + 1, width.narrow + 1⟩ settled rest
  | '\t' :: rest => measure ⟨(width.wide / 8 + 1) * 8, width.narrow + 1⟩ settled rest
  | '\x0c' :: rest => measure ⟨0, 0⟩ settled rest
  | '\\' :: '\n' :: c :: rest =>
    measure width (if settled = 0 then width.wide else settled) (c :: rest)
  | '\\' :: _ => none
  | rest => some (if settled = 0 then width else ⟨settled, settled⟩, rest)

end Indentation

/-! ### Lexemes -/

/-- A word, the start of a line with its indentation, or the break of a line. -/
inductive Lexeme
  | token (token : Token)
  | lineStart (indentation : Indentation)
  | lineBreak
  deriving DecidableEq

/-- What follows the break of the first line of a text. -/
def afterLine (text : List Char) : List Char :=
  (text.dropWhile (· ≠ '\n')).drop 1

/-- The lexemes of a text from the start of a line or from within one. Every two steps take up at
least one character. -/
def lexemesWithin : Nat → Bool → List Char → Option (List Lexeme)
  | 0, _, _ => none
  | fuel + 1, true, text => do
    let (indentation, rest) ← Indentation.measure ⟨0, 0⟩ 0 text
    match rest with
    -- Lines without a word have no part in the indentation.
    | '\n' :: rest => lexemesWithin fuel true rest
    | '#' :: rest =>
      if rest.contains '\n' then lexemesWithin fuel true (afterLine rest) else some []
    | rest => return .lineStart indentation :: (← lexemesWithin fuel false rest)
  | _ + 1, false, [] => some []
  | fuel + 1, false, c :: rest =>
    if c = ' ' ∨ c = '\t' ∨ c = '\x0c' then lexemesWithin fuel false rest
    else if c = '\n' then return .lineBreak :: (← lexemesWithin fuel true rest)
    else if c = '#' then lexemesWithin fuel false (rest.dropWhile (· ≠ '\n'))
    else if c = '\\' then
      match rest with
      -- A backslash joins a line with the next one, which must not be missing.
      | '\n' :: next :: rest => lexemesWithin fuel false (next :: rest)
      | _ => none
    else do
      let (token, rest) ← scanToken (c :: rest)
      return .token token :: (← lexemesWithin fuel false rest)

/-- The lexemes of a text. -/
def lexemes (text : List Char) : Option (List Lexeme) :=
  lexemesWithin (2 * text.length + 2) true text

end EntryPoint.Syntax
