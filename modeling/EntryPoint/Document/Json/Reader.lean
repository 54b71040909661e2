/-
# Reading JSON

The reader says exactly what it missed and where: by line, column and number of
characters. Numbers without fraction and exponent are integers of any size up to
a limit of digits, the names of the values beyond the range are known, and the
last value of a key counts.

## Main definitions

* `Complaint`, `Mistake.text` - what the reader missed.
* `scanText` - a text behind its opening quote.
* `scanNumber` - a number.
* `readJson` - the value of a whole text.
-/

import EntryPoint.Document.Value

namespace EntryPoint.Document

open Decimal Text

/-! ### Mistakes -/

/-- What the reader missed or did not expect. -/
inductive Complaint
  | value
  | propertyName
  | colon
  | comma
  | extraData
  | unterminated
  | controlCharacter
  | escape
  | unicodeEscape
  | byteOrderMark
  deriving DecidableEq

/-- The wording of a complaint. -/
def Complaint.text : Complaint → String
  | .value => "Expecting value"
  | .propertyName => "Expecting property name enclosed in double quotes"
  | .colon => "Expecting ':' delimiter"
  | .comma => "Expecting ',' delimiter"
  | .extraData => "Extra data"
  | .unterminated => "Unterminated string starting at"
  | .controlCharacter => "Invalid control character at"
  | .escape => "Invalid \\escape"
  | .unicodeEscape => "Invalid \\uXXXX escape"
  | .byteOrderMark => "Unexpected UTF-8 BOM (decode using utf-8-sig)"

/-- Why a text is not read: a complaint at a place, given by the number of characters from there to
the end, or an integer of too many digits. -/
inductive Mistake
  | complaint (missed : Complaint) (remaining : Nat)
  | longInteger (digits : Nat)
  deriving DecidableEq

/-- The text of a mistake in a text. -/
def Mistake.text (source : List Char) : Mistake → String
  | .complaint missed remaining =>
    let before := source.take (source.length - remaining)
    let line := before.count '\n' + 1
    let column := (before.reverse.takeWhile (· ≠ '\n')).length + 1
    missed.text ++ ": line " ++ decimal line ++ " column " ++ decimal column ++ " (char " ++
      decimal before.length ++ ")"
  | .longInteger digits =>
    "Exceeds the limit (" ++ decimal maxIntegerDigits ++
      " digits) for integer string conversion: value has " ++ decimal digits ++
      " digits; use sys.set_int_max_str_digits() to increase the limit"

/-- A complaint at the front of a text. -/
def complain {α : Type} (missed : Complaint) (place : List Char) : Except Mistake α :=
  .error (.complaint missed place.length)

/-- The text behind its blanks. -/
def skipBlanks (text : List Char) : List Char :=
  text.dropWhile fun c => c = ' ' || c = '\t' || c = '\n' || c = '\r'

/-! ### Texts -/

/-- The character of an escape by one letter. -/
def letterEscape? (c : Char) : Option Char :=
  [('"', '"'), ('\\', '\\'), ('/', '/'), ('b', '\x08'), ('f', '\x0c'), ('n', '\n'), ('r', '\r'),
    ('t', '\t')].lookup c

/-- The value of four hexadecimal digits at the front of a text. -/
def fourDigits? (text : List Char) : Option Nat :=
  let digits := text.take 4
  if digits.length = 4 ∧ digits.all (isDigitOf 16) then some (ofDigits 16 digits) else none

/-- The code unit of an escape by code, from behind its letter. The text must go on behind it; what
is wrong is reported at the letter. -/
def scanUnit (text : List Char) : Except Mistake (Nat × List Char) :=
  if text.length ≤ 4 then .error (.complaint .unicodeEscape (text.length + 1))
  else
    match fourDigits? text with
    | some unit => .ok (unit, text.drop 4)
    | none => .error (.complaint .unicodeEscape (text.length + 1))

/-- The character of an escape by code; a pair of surrogates is one character, and a surrogate
alone the replacement character. -/
def scanCodeEscape (text : List Char) : Except Mistake (Char × List Char) := do
  let (unit, rest) ← scanUnit text
  let alone := if unit.isValidChar then Char.ofNat unit else '\ufffd'
  -- Behind the first half of a pair another escape is looked for, where the text has room for one.
  if 0xd800 ≤ unit ∧ unit < 0xdc00 ∧ 6 < rest.length then
    match rest with
    | '\\' :: 'u' :: digits =>
      match fourDigits? digits with
      | none => .error (.complaint .unicodeEscape (digits.length + 1))
      | some low =>
        if 0xdc00 ≤ low ∧ low < 0xe000 then
          .ok (Char.ofNat (0x10000 + (unit - 0xd800) * 0x400 + (low - 0xdc00)), digits.drop 4)
        else .ok (alone, rest)
    | _ => .ok (alone, rest)
  else .ok (alone, rest)

/-- The characters up to the closing quote, given how many characters lie behind the opening
one. Every step takes up at least one character. -/
def scanTextWithin (start : Nat) : Nat → List Char → Except Mistake (List Char × List Char)
  | 0, _ => .error (.complaint .unterminated start)
  | _ + 1, [] => .error (.complaint .unterminated start)
  | fuel + 1, c :: rest =>
    if c = '"' then .ok ([], rest)
    else if c = '\\' then
      match rest with
      | [] => .error (.complaint .unterminated start)
      | 'u' :: digits => do
        let (c, rest) ← scanCodeEscape digits
        let (text, rest) ← scanTextWithin start fuel rest
        .ok (c :: text, rest)
      | letter :: after =>
        match letterEscape? letter with
        | none => complain .escape (c :: rest)
        | some escaped => do
          let (text, rest) ← scanTextWithin start fuel after
          .ok (escaped :: text, rest)
    else if c.toNat < 32 then complain .controlCharacter (c :: rest)
    else do
      let (text, rest) ← scanTextWithin start fuel rest
      .ok (c :: text, rest)

/-- The text behind its opening quote. -/
def scanText (text : List Char) : Except Mistake (String × List Char) := do
  let (chars, rest) ← scanTextWithin (text.length + 1) (text.length + 1) text
  .ok (String.ofList chars, rest)

/-! ### Numbers -/

/-- The digits of a fraction behind its point, if there are any. -/
def scanPlaces (text : List Char) : Option (List Char) × List Char :=
  match text with
  | '.' :: c :: rest =>
    if c.isDigit then
      (some (c :: rest.takeWhile Char.isDigit), rest.dropWhile Char.isDigit)
    else (none, text)
  | _ => (none, text)

/-- The exponent, if there is one with digits. -/
def scanPower (text : List Char) : Option Int × List Char :=
  match text with
  | mark :: rest =>
    if mark = 'e' ∨ mark = 'E' then
      let negative := rest.head? = some '-'
      -- A letter without digits behind it is no exponent and stays.
      let digits := if negative ∨ rest.head? = some '+' then rest.drop 1 else rest
      match digits.takeWhile Char.isDigit with
      | [] => (none, text)
      | exponent =>
        (some (Binary64.signed negative (ofDigits 10 exponent)), digits.dropWhile Char.isDigit)
    else (none, text)
  | [] => (none, text)

/-- The integer digits at the front of a text: a zero alone, or digits that open with no zero. -/
def scanWhole (text : List Char) : Option (List Char × List Char) :=
  match text with
  | '0' :: rest => some (['0'], rest)
  | c :: rest =>
    if c.isDigit then some (c :: rest.takeWhile Char.isDigit, rest.dropWhile Char.isDigit) else none
  | [] => none

/-- The number at the front of a text. -/
def scanNumber (text : List Char) : Except Mistake (Value × List Char) :=
  let negative := text.head? = some '-'
  match scanWhole (if negative then text.drop 1 else text) with
  | none => complain .value text
  | some (whole, rest) =>
    let (places, rest) := scanPlaces rest
    let (exponent, rest) := scanPower rest
    if places.isNone && exponent.isNone then
      -- The limit is on integers alone: a fraction may have any number of digits.
      if maxIntegerDigits < whole.length then .error (.longInteger whole.length)
      else .ok (.integer (Binary64.signed negative (ofDigits 10 whole)), rest)
    else
      let digits := whole ++ places.getD []
      .ok (.real (Binary64.ofScientific negative (ofDigits 10 digits)
        (exponent.getD 0 - (places.getD []).length)), rest)

/-- The values with names of their own. -/
def namedValues : List (String × Value) :=
  [("null", .null), ("true", .truth true), ("false", .truth false), ("NaN", .real .notANumber),
    ("Infinity", .real (.infinite false)), ("-Infinity", .real (.infinite true))]

/-- The scalar that is no text at the front of a text. -/
def scanScalar (text : List Char) : Except Mistake (Value × List Char) :=
  match namedValues.find? (·.1.toList.isPrefixOf text) with
  | some (name, value) => .ok (value, text.drop name.length)
  | none => scanNumber text

/-! ### Values -/

mutual

/-- The value at the front of a text. -/
def scanValue : Nat → List Char → Except Mistake (Value × List Char)
  | 0, text => complain .value text
  | fuel + 1, text =>
    match text with
    | '"' :: rest => do
      let (value, rest) ← scanText rest
      .ok (.text value, rest)
    | '[' :: rest =>
      match skipBlanks rest with
      | ']' :: rest => .ok (.list [], rest)
      | rest => do
        let (elements, rest) ← scanElements fuel rest
        .ok (.list elements, rest)
    | '\x7b' :: rest =>
      match skipBlanks rest with
      | '\x7d' :: rest => .ok (.mapping [], rest)
      | rest => scanPairs fuel [] rest
    | text => scanScalar text

/-- The elements of a list up to its closing bracket. -/
def scanElements : Nat → List Char → Except Mistake (List Value × List Char)
  | 0, text => complain .value text
  | fuel + 1, text => do
    let (value, rest) ← scanValue fuel text
    match skipBlanks rest with
    | ']' :: rest => .ok ([value], rest)
    | ',' :: rest => do
      let (others, rest) ← scanElements fuel (skipBlanks rest)
      .ok (value :: others, rest)
    | rest => complain .comma rest

/-- The pairs of a mapping up to its closing brace, added to those read before. -/
def scanPairs : Nat → List (Value × Value) → List Char → Except Mistake (Value × List Char)
  | 0, _, text => complain .value text
  | fuel + 1, pairs, text =>
    match text with
    | '"' :: rest => do
      let (key, rest) ← scanText rest
      match skipBlanks rest with
      | ':' :: rest => do
        let (value, rest) ← scanValue fuel (skipBlanks rest)
        -- Of equal keys the last value counts, at the place of the first.
        let pairs := insertPair pairs (.text key) value
        match skipBlanks rest with
        | '\x7d' :: rest => .ok (.mapping pairs, rest)
        | ',' :: rest => scanPairs fuel pairs (skipBlanks rest)
        | rest => complain .comma rest
      | rest => complain .colon rest
    | text => complain .propertyName text

end

/-- The value of a whole text. -/
def readJson (source : String) : Except Mistake Value :=
  let text := source.toList
  if text.head? = some '\ufeff' then complain .byteOrderMark text
  else do
    let start := skipBlanks text
    let (value, rest) ← scanValue (start.length + 1) start
    match skipBlanks rest with
    | [] => .ok value
    | rest => complain .extraData rest

end EntryPoint.Document
