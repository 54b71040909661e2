/-
# Emoji codes

A name between colons stands for the emoji of that name, if there is one, and
may be written in either case. Behind the name a hyphen and a word may ask for the
emoji as a picture or as text.

## Main definitions

* `emojiOfCode?` - the characters that a code stands for.
* `replaceCodes` - a text with emoji for its codes.
-/

import EntryPoint.Text.EmojiTable
import EntryPoint.Text.LowerCase

namespace EntryPoint.Console

open Text

/-- The endings of codes that ask for a form, and the characters that select it. -/
def formEndings : List (String × Nat) :=
  [("-emoji", 0xfe0f), ("-text", 0xfe0e)]

/-- The name in a code, and the character that selects the form it asks for. -/
def splitForm (code : List Char) : List Char × List Nat :=
  match formEndings.find? fun (ending, _) => ending.toList.isSuffixOf code with
  | some (ending, selector) => (code.take (code.length - ending.length), [selector])
  | none => (code, [])

/-- The characters that a code between colons stands for. -/
def emojiOfCode? (code : List Char) : Option (List Char) :=
  let (name, selector) := splitForm code
  (emojiTable.lookup (lower (String.ofList name))).map fun codePoints =>
    (codePoints ++ selector).map Char.ofNat

/-- The text from a place on with emoji for its codes, given the characters behind a colon that may
open a code, last first. A code holds no blanks; a colon closes it even where it stands for
nothing. -/
def replaceCodesFrom : Option (List Char) → List Char → List Char
  | none, [] => []
  | some pending, [] => ':' :: pending.reverse
  | none, c :: rest =>
    if c = ':' then replaceCodesFrom (some []) rest else c :: replaceCodesFrom none rest
  | some pending, c :: rest =>
    if c = ':' then
      -- The closing colon does not open another code, even if this one stands for nothing.
      (emojiOfCode? pending.reverse).getD (':' :: pending.reverse ++ [':']) ++
        replaceCodesFrom none rest
    else if isBlank c then ':' :: pending.reverse ++ c :: replaceCodesFrom none rest
    else replaceCodesFrom (some (c :: pending)) rest

/-- The text with emoji for its codes. -/
def replaceCodes (text : List Char) : List Char :=
  replaceCodesFrom none text

end EntryPoint.Console
