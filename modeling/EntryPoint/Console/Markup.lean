/-
# Markup

Text for a terminal may hold tags between square brackets. An opening tag names
a style or, behind an at sign, a handler; a closing one ends what its name opened
or, without a name, what was opened last. Tags are not shown; a backslash before a
tag makes it text. A closing tag that ends nothing is a mistake, and so are one that
ends a handler whose parameters cannot be read and a colour that cannot be read.

## Main definitions

* `Piece`, `pieces` - texts and tags.
* `Opened.close` - what a closing tag leaves open.
* `visibleText` - the text that is shown.
-/

import EntryPoint.Console.Emoji
import EntryPoint.Console.Handler
import EntryPoint.Console.StyleName
import EntryPoint.Text.Tab

namespace EntryPoint.Console

open Text

/-- A piece of marked up text: characters that are shown, or the name in a tag with what follows it
behind an equals sign. -/
inductive Piece
  | shown (text : List Char)
  | tag (name parameters : List Char)
  deriving DecidableEq

/-- Whether a tag opens with a character. -/
def opensTag (c : Char) : Bool :=
  c.isLower || c = '#' || c = '/' || c = '@'

/-- The content of the tag behind its opening bracket, and what follows the closing one. -/
def tagContent? : List Char → Option (List Char × List Char)
  | [] => none
  | c :: rest =>
    if !opensTag c then none
    else
      let content := rest.takeWhile fun c => c ≠ ']' && c ≠ '['
      match rest.drop content.length with
      | ']' :: after => some (c :: content, after)
      | _ => none

/-- Characters outside tags as they are shown: a backslash before an opening bracket is not. -/
def unescape : List Char → List Char
  | [] => []
  | '\\' :: '[' :: rest => '[' :: unescape rest
  | c :: rest => c :: unescape rest

/-- The tag of a content. -/
def Piece.ofContent (content : List Char) : Piece :=
  .tag (content.takeWhile (· ≠ '=')) ((content.dropWhile (· ≠ '=')).drop 1)

/-- The pieces that a tag behind some backslashes stands for. Each pair of backslashes is one that
is shown; one left over makes the tag text. -/
def tagPieces (backslashes : Nat) (content : List Char) : List Piece :=
  let shown := List.replicate (backslashes / 2) '\\'
  if backslashes % 2 = 1 then [.shown shown, .shown ('[' :: content ++ [']'])]
  else [.shown shown, .ofContent content]

/-- The pieces of a text, given the characters outside tags just before it, last first. Every step
takes up at least one character. -/
def piecesFrom : Nat → List Char → List Char → List Piece
  | 0, before, _ => [.shown (unescape before.reverse)]
  | _ + 1, before, [] => [.shown (unescape before.reverse)]
  | fuel + 1, before, c :: rest =>
    let backslashes := ((c :: rest).takeWhile (· = '\\')).length
    match (c :: rest).drop backslashes with
    | '[' :: inside =>
      match tagContent? inside with
      | some (content, after) =>
        .shown (unescape before.reverse) :: tagPieces backslashes content ++
          piecesFrom fuel [] after
      -- A bracket that opens no tag is shown, and the backslashes before it belong to the text.
      | none => piecesFrom fuel ('[' :: List.replicate backslashes '\\' ++ before) inside
    | _ => piecesFrom fuel (c :: before) rest

/-- The pieces of a text. -/
def pieces (text : List Char) : List Piece :=
  piecesFrom (text.length + 1) [] text

/-- What an opening tag opened: a style in canonical form, or a handler with its parameters. -/
structure Opened where
  name : String
  parameters : List Char
  deriving DecidableEq

/-- What is wrong with a marked up text: a closing tag, or a colour. -/
inductive MarkupMistake
  | closing
  | color
  deriving DecidableEq

/-- The canonical form of the name of a style. -/
def styleOf (name : List Char) : Except MarkupMistake String :=
  match canonicalStyle? name with
  | some style => .ok style
  | none => .error .color

/-- Whether a closing tag may end what was opened. -/
def Opened.mayEnd (opened : Opened) : Bool :=
  !opened.name.startsWith "@" || areParameters opened.parameters

/-- What stays open, innermost first, when a closing tag ends one of the open ones. -/
def Opened.close (name : List Char) (opened : List Opened) :
    Except MarkupMistake (List Opened) := do
  let ended ← match trimBlanks name with
    -- A closing tag without a name ends the innermost one.
    | [] => pure opened.head?
    | name => do
      let style ← styleOf name
      pure (opened.find? (·.name = style))
  match ended with
  | some ended => if ended.mayEnd then .ok (opened.erase ended) else .error .closing
  | none => .error .closing

/-- The text that pieces show, given what is open. -/
def shownText : List Opened → List Piece → Except MarkupMistake (List Char)
  | _, [] => .ok []
  | opened, .shown text :: rest => return replaceCodes text ++ (← shownText opened rest)
  | opened, .tag ('/' :: name) _ :: rest => do shownText (← Opened.close name opened) rest
  | opened, .tag name parameters :: rest => do
    shownText (⟨← styleOf name, parameters⟩ :: opened) rest

/-- The control characters that a terminal does not show. -/
def isSilent (c : Char) : Bool :=
  [7, 8, 11, 12, 13].contains c.toNat

/-- The width of tabs on a terminal. -/
def terminalTab : Nat := 8

/-- The text that a marked up text shows. -/
def visibleText (markup : String) : Except MarkupMistake String := do
  let text ← shownText [] (pieces markup.toList)
  return String.ofList (expandTabs cellCount terminalTab (text.filter (!isSilent ·)))

end EntryPoint.Console
