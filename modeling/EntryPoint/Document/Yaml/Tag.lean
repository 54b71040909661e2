/-
# Tags

A tag says of which kind a node is. A plain scalar without one is of the first
kind whose form its text has, and text otherwise.

## Main definitions

* `Tag`, `Tag.ofText` - the kinds that are known.
* `isTruthText`, `isIntegerText`, `isRealText`, `Stamp.ofText?` - the forms of
  plain scalars.
* `Tag.ofPlain` - the kind of a plain scalar.
-/

import EntryPoint.Text.Digits
import EntryPoint.Text.Split

namespace EntryPoint.Document.Yaml

open Text

/-- The kinds of nodes. -/
inductive Tag
  | null
  | truth
  | integer
  | real
  | binary
  | timestamp
  | text
  | sequence
  | mapping
  | orderedMapping
  | pairs
  | set
  | merge
  | default
  | unknown
  deriving DecidableEq, Inhabited

/-- What the tags of the known kinds start with. -/
def tagStem : String := "tag:yaml.org,2002:"

/-- The names of the known kinds. -/
def tagNames : List (String × Tag) :=
  [("null", .null), ("bool", .truth), ("int", .integer), ("float", .real), ("binary", .binary),
    ("timestamp", .timestamp), ("str", .text), ("seq", .sequence), ("map", .mapping),
    ("omap", .orderedMapping), ("pairs", .pairs), ("set", .set), ("merge", .merge),
    ("value", .default)]

/-- The kind that a full tag names. -/
def Tag.ofText (text : String) : Tag :=
  match tagNames.find? fun (name, _) => tagStem ++ name = text with
  | some (_, tag) => tag
  | none => .unknown

/-! ### Forms of scalars -/

/-- The text behind a sign, if it opens with one. -/
def dropSign : List Char → List Char
  | [] => []
  | c :: rest => if c = '+' ∨ c = '-' then rest else c :: rest

/-- Whether a text is not empty and has only digits of a base and underscores. -/
def isDigitRun (base : Nat) (text : List Char) : Bool :=
  !text.isEmpty && text.all fun c => isDigitOf base c || c = '_'

/-- Whether a text opens with a decimal digit and goes on with digits and underscores. -/
def isDecimalRun (text : List Char) : Bool :=
  (text.head?.map Char.isDigit).getD false && isDigitRun 10 text

/-- Whether a text is one of the words for truth values. -/
def isTruthText (text : List Char) : Bool :=
  ["yes", "Yes", "YES", "no", "No", "NO", "true", "True", "TRUE", "false", "False", "FALSE", "on",
    "On", "ON", "off", "Off", "OFF"].contains (String.ofList text)

/-- Whether a text is one of the words for null. -/
def isNullText (text : List Char) : Bool :=
  ["", "~", "null", "Null", "NULL"].contains (String.ofList text)

/-- Whether a text is a number below sixty, in one or two digits. -/
def isSixtieth : List Char → Bool
  | [c] => c.isDigit
  | [c, d] => '0' ≤ c && c ≤ '5' && d.isDigit
  | _ => false

/-- Whether a text is an integer: binary, octal, hexadecimal or decimal, or a count of sixties. -/
def isIntegerText (text : List Char) : Bool :=
  match dropSign text with
  | ['0'] => true
  | '0' :: 'b' :: rest => isDigitRun 2 rest
  | '0' :: 'x' :: rest => isDigitRun 16 rest
  | '0' :: rest => isDigitRun 8 rest
  | digits =>
    let (first, others) := splitAt ':' digits
    isDecimalRun first && others.all isSixtieth

/-- Whether a text is an exponent with its sign, or empty. -/
def isExponent : List Char → Bool
  | [] => true
  | mark :: sign :: digits =>
    (mark = 'e' || mark = 'E') && (sign = '+' || sign = '-') && !digits.isEmpty &&
      digits.all Char.isDigit
  | _ => false

/-- Whether a text is digits and underscores before an exponent or the end. -/
def isFraction (text : List Char) : Bool :=
  isExponent (text.dropWhile fun c => c.isDigit || c = '_')

/-- Whether a text is a floating point number. It needs a point; one that opens with the point has
no sign and a digit next. -/
def isRealText (text : List Char) : Bool :=
  let unsigned := dropSign text
  match unsigned.takeWhile (· ≠ '.'), (unsigned.dropWhile (· ≠ '.')).drop 1 with
  | [], rest =>
    let word := String.ofList rest
    text.contains '.' &&
      (["inf", "Inf", "INF"].contains word ||
        (text.head? = some '.' &&
          (["nan", "NaN", "NAN"].contains word ||
            ((rest.head?.map Char.isDigit).getD false && isFraction rest))))
  | whole, rest =>
    let (first, others) := splitAt ':' whole
    text.contains '.' && isDecimalRun first && others.all isSixtieth &&
      (if others.isEmpty then isFraction rest else rest.all fun c => c.isDigit || c = '_')

/-! ### Points of time -/

/-- A distance from universal time, as written. -/
structure StampZone where
  negative : Bool
  hour : Nat
  minute : Nat

/-- A time of day, as written. -/
structure StampTime where
  hour : Nat
  minute : Nat
  second : Nat
  fraction : List Char
  zone : Option StampZone

/-- A date with a time of day or without, as written. -/
structure Stamp where
  year : Nat
  month : Nat
  day : Nat
  time : Option StampTime

namespace Stamp

/-- The number of at least so many and at most so many digits at the front of a text. -/
def number? (least most : Nat) (text : List Char) : Option (Nat × List Char) :=
  let digits := (text.take most).takeWhile Char.isDigit
  if least ≤ digits.length then some (ofDigits 10 digits, text.drop digits.length) else none

/-- The text behind a character that must come. -/
def behind? (c : Char) : List Char → Option (List Char)
  | first :: rest => if first = c then some rest else none
  | [] => none

/-- The text behind spaces and tabs. -/
def dropBlanks (text : List Char) : List Char :=
  text.dropWhile fun c => c = ' ' || c = '\t'

/-- The text of a time of day behind what separates it from the date. -/
def timeText? : List Char → Option (List Char)
  | [] => none
  | c :: rest =>
    if c = 'T' ∨ c = 't' then some rest
    else if c = ' ' ∨ c = '\t' then some (dropBlanks rest)
    else none

/-- The zone that a text is, if it is none, universal time or a distance from it. -/
def zone? (text : List Char) : Option (Option StampZone) :=
  match text, dropBlanks text with
  | [], _ => some none
  | _, ['Z'] => some (some ⟨false, 0, 0⟩)
  | _, sign :: rest =>
    if sign = '+' ∨ sign = '-' then do
      let (hour, rest) ← number? 1 2 rest
      match rest with
      | [] => some (some ⟨sign = '-', hour, 0⟩)
      | rest =>
        let (minute, rest) ← number? 2 2 (← behind? ':' rest)
        if rest.isEmpty then some (some ⟨sign = '-', hour, minute⟩) else none
    else none
  | _, [] => none

/-- The time of day that a text is. -/
def time? (text : List Char) : Option StampTime := do
  let (hour, rest) ← number? 1 2 text
  let (minute, rest) ← number? 2 2 (← behind? ':' rest)
  let (second, rest) ← number? 2 2 (← behind? ':' rest)
  let (fraction, rest) := match rest with
    | '.' :: rest => (rest.takeWhile Char.isDigit, rest.dropWhile Char.isDigit)
    | rest => ([], rest)
  let zone ← zone? rest
  some { hour, minute, second, fraction, zone }

/-- The point of time that a text is. -/
def ofText? (text : List Char) : Option Stamp := do
  let (year, rest) ← number? 4 4 text
  let (month, rest) ← number? 1 2 (← behind? '-' rest)
  let (day, rest) ← number? 1 2 (← behind? '-' rest)
  match rest with
  | [] => some { year, month, day, time := none }
  | rest => some { year, month, day, time := some (← time? (← timeText? rest)) }

end Stamp

/-- Whether a plain text is a point of time; a date alone needs two digits of month and day. -/
def isStampText (text : List Char) : Bool :=
  match Stamp.ofText? text with
  | some stamp => stamp.time.isSome || text.length = 10
  | none => false

/-! ### Plain scalars -/

/-- The text without one line feed at its end, unless it is nothing else. -/
def dropFinalBreak (text : List Char) : List Char :=
  if text.getLast? = some '\n' ∧ 1 < text.length then text.dropLast else text

/-- The kind of a plain scalar. One line feed at its end does not count. -/
def Tag.ofPlain (source : String) : Tag :=
  let text := dropFinalBreak source.toList
  -- The forms are tried in a fixed order, and a text may have more than one of them.
  if isTruthText text then .truth
  else if isRealText text then .real
  else if isIntegerText text then .integer
  else if text = ['<', '<'] then .merge
  else if isNullText text then .null
  else if isStampText text then .timestamp
  else if text = ['='] then .default
  else if text = ['!'] ∨ text = ['&'] ∨ text = ['*'] then .unknown
  else .text

end EntryPoint.Document.Yaml
