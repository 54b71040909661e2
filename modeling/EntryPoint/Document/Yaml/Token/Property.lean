/-
# Names, tags and directives as written

What stands before a value or a document and opens with an ampersand, an
asterisk, an exclamation mark or a percent sign.

## Main definitions

* `scanName` - the name of an anchor or an alias.
* `scanTag` - a tag: its handle, if it has one, and the rest.
* `scanDirective` - a directive.
-/

import EntryPoint.Document.Yaml.Cursor
import EntryPoint.Document.Yaml.Token

namespace EntryPoint.Document.Yaml

open Text

/-- Passes on if a condition holds. -/
def require (condition : Bool) : Except Flaw Unit :=
  if condition then .ok () else .error .malformed

/-! ### Names -/

/-- Whether a name may end before this character. -/
def endsName (next : Option Char) : Bool :=
  endsWord next ||
    (next.map fun c => ['?', ':', ',', ']', '\x7d', '%', '@', '\x60'].contains c).getD false

/-- The name of an anchor or an alias behind its first character. -/
def scanName (cursor : Cursor) : Except Flaw (String × Cursor) := do
  let (name, cursor) := cursor.next.span isWord
  require (!name.isEmpty && endsName cursor.peek?)
  .ok (String.ofList name, cursor)

/-! ### Tags -/

/-- The characters that stand for themselves in a tag. -/
def isTagCharacter (c : Char) : Bool :=
  isWord c || [';', '/', '?', ':', '@', '&', '=', '+', '$', ',', '.', '!', '~', '*', '\'', '(', ')',
    '[', ']'].contains c

/-- The bytes given by escapes of two hexadecimal digits. -/
def scanEscapedBytes : Nat → Cursor → Except Flaw (List UInt8 × Cursor)
  | 0, _ => .error .malformed
  | fuel + 1, cursor =>
    if !cursor.isAt '%' then .ok ([], cursor)
    else do
      let digits := (cursor.rest.drop 1).take 2
      require (digits.length = 2 && digits.all (isDigitOf 16))
      let (others, cursor) ← scanEscapedBytes fuel (cursor.skip 3)
      .ok ((ofDigits 16 digits).toUInt8 :: others, cursor)

/-- The text that bytes spell. -/
def spelled (bytes : List UInt8) : Except Flaw (List Char) :=
  match String.fromUTF8? bytes.toByteArray with
  | some text => .ok text.toList
  | none => .error .malformed

/-- The characters and escapes of a tag from here on. -/
def tagFrom : Nat → Cursor → Except Flaw (List Char × Cursor)
  | 0, _ => .error .malformed
  | fuel + 1, cursor => do
    let (chars, cursor) := cursor.span isTagCharacter
    if !cursor.isAt '%' then .ok (chars, cursor)
    else do
      let (bytes, cursor) ← scanEscapedBytes (cursor.rest.length + 1) cursor
      let escaped ← spelled bytes
      let (others, cursor) ← tagFrom fuel cursor
      .ok (chars ++ escaped ++ others, cursor)

/-- The rest of a tag, which must not be empty. -/
def scanTagText (cursor : Cursor) : Except Flaw (String × Cursor) := do
  require ((cursor.peek?.map fun c => isTagCharacter c || c = '%').getD false)
  let (text, cursor) ← tagFrom (cursor.rest.length + 1) cursor
  .ok (String.ofList text, cursor)

/-- A handle: an exclamation mark alone before a space, or a word between two of them. -/
def scanHandle (cursor : Cursor) : Except Flaw (String × Cursor) := do
  require (cursor.isAt '!')
  let (name, cursor) := cursor.next.span isWord
  if name.isEmpty && cursor.isAt ' ' then .ok ("!", cursor)
  else do
    require (cursor.isAt '!')
    .ok (String.ofList ('!' :: name ++ ['!']), cursor.next)

/-- Whether the word that opens here has an exclamation mark behind its first character. -/
def hasSecondMark (cursor : Cursor) : Bool :=
  ((cursor.rest.drop 1).takeWhile fun c => !endsField (some c)).contains '!'

/-- The tag that starts here, and the cursor behind it. A field must end there. -/
def scanTag (cursor : Cursor) : Except Flaw (Token × Cursor) := do
  let (token, cursor) ← (
    if cursor.peekAt? 1 = some '<' then do
      let (text, cursor) ← scanTagText (cursor.skip 2)
      require (cursor.isAt '>')
      .ok (.tag none text, cursor.next)
    else if endsWord (cursor.peekAt? 1) then .ok (.tag none "!", cursor.next)
    else do
      let (handle, cursor) ←
        if hasSecondMark cursor then scanHandle cursor else pure ("!", cursor.next)
      let (text, cursor) ← scanTagText cursor
      .ok (.tag (some handle) text, cursor) : Except Flaw (Token × Cursor))
  require (endsField cursor.peek?)
  .ok (token, cursor)

/-! ### Directives -/

/-- The most digits of a number of a version. -/
def maxVersionDigits : Nat := 4300

/-- A number of a version. -/
def scanVersionNumber (cursor : Cursor) : Except Flaw (Nat × Cursor) := do
  let (digits, cursor) := cursor.span Char.isDigit
  require (!digits.isEmpty)
  if maxVersionDigits < digits.length then .error (.unforeseen .value)
  else .ok (ofDigits 10 digits, cursor)

/-- The version behind the name of its directive. -/
def scanVersion (cursor : Cursor) : Except Flaw (Directive × Cursor) := do
  let (major, cursor) ← scanVersionNumber cursor.skipSpaces
  require (cursor.isAt '.')
  let (_, cursor) ← scanVersionNumber cursor.next
  require (endsField cursor.peek?)
  .ok (.version major, cursor)

/-- The handle of tags behind the name of its directive, and what it stands for. -/
def scanHandleDirective (cursor : Cursor) : Except Flaw (Directive × Cursor) := do
  let (name, cursor) ← scanHandle cursor.skipSpaces
  require (cursor.isAt ' ')
  let (stem, cursor) ← scanTagText cursor.skipSpaces
  require (endsField cursor.peek?)
  .ok (.handle name stem, cursor)

/-- The directive that starts here, and the cursor on the line below it. -/
def scanDirective (cursor : Cursor) : Except Flaw (Directive × Cursor) := do
  let (name, cursor) := cursor.next.span isWord
  require (!name.isEmpty && endsField cursor.peek?)
  let (directive, cursor) ← (match String.ofList name with
    | "YAML" => scanVersion cursor
    | "TAG" => scanHandleDirective cursor
    | _ => .ok (.unknown, cursor.skipToBreak) : Except Flaw (Directive × Cursor))
  match cursor.restOfLine with
  | some cursor => .ok (directive, cursor)
  | none => .error .malformed

end EntryPoint.Document.Yaml
