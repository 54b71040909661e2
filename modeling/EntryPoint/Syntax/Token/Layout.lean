/-
# Layout

Lines become tokens: within brackets breaks and indentation mean nothing; outside
of them a break ends a statement, and a change of indentation opens or closes
blocks.

## Main definitions

* `layout` - the tokens of a list of lexemes.
* `tokenize` - the tokens of a text.
* `unifyBreaks` - line feeds in place of the other line breaks.
-/

import EntryPoint.Syntax.Token.Lexeme

namespace EntryPoint.Syntax

/-- The nesting of brackets behind a token. -/
def depthAfter (depth : Nat) : Token → Nat
  | .symbol text =>
    if ["(", "[", "\x7b"].contains text then depth + 1
    else if [")", "]", "\x7d"].contains text then depth - 1
    else depth
  | _ => depth

/-- Closes blocks until an indentation is open again; fails where none is equal to it. -/
def closeBlocks (indentation : Indentation) :
    List Indentation → Option (List Token × List Indentation)
  | [] => none
  | top :: outer =>
    if indentation.wide < top.wide then
      (closeBlocks indentation outer).map fun (tokens, opened) => (.dedent :: tokens, opened)
    else if indentation = top then some ([], top :: outer)
    else none

/-- The tokens at the start of a line, and the indentations that are open from there on. -/
def openLine (indentation : Indentation) (opened : List Indentation) :
    Option (List Token × List Indentation) :=
  match opened with
  | [] => none
  | top :: _ =>
    if top.wide < indentation.wide then
      -- A line that is indented further must be so whatever the width of a tab is.
      if top.narrow < indentation.narrow ∧ opened.length < maxIndentations then
        some ([.indent], indentation :: opened)
      else none
    else closeBlocks indentation opened

/-- The tokens of lexemes, given the open indentations and the nesting of brackets. -/
def layout (opened : List Indentation) (depth : Nat) : List Lexeme → Option (List Token)
  | [] => if depth = 0 then some [] else none
  | .token token :: rest =>
    if depthAfter depth token ≤ maxBrackets then
      (layout opened (depthAfter depth token) rest).map (token :: ·)
    else none
  | .lineBreak :: rest =>
    -- Between brackets neither breaks nor indentation count.
    if depth = 0 then (layout opened depth rest).map (.newline :: ·) else layout opened depth rest
  | .lineStart indentation :: rest =>
    if depth = 0 then do
      let (tokens, opened) ← openLine indentation opened
      return tokens ++ (← layout opened depth rest)
    else layout opened depth rest

/-- Line feeds in place of carriage returns with or without a line feed behind. -/
def unifyBreaks : List Char → List Char
  | [] => []
  | '\r' :: '\n' :: rest => '\n' :: unifyBreaks rest
  | '\r' :: rest => '\n' :: unifyBreaks rest
  | c :: rest => c :: unifyBreaks rest

/-- The text with a line feed at its end. -/
def closeLastLine (text : List Char) : List Char :=
  if text.getLast? = some '\n' then text else text ++ ['\n']

/-- The tokens of a text. -/
def tokenize (text : List Char) : Option (List Token) :=
  (lexemes text).bind (layout [⟨0, 0⟩] 0)

end EntryPoint.Syntax
