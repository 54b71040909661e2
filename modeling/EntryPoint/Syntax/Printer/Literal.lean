/-
# The text of literals

Constants print as quoted literals and numerals. Docstrings and the texts around
replacement fields choose among four quotes instead, so that as little as
possible has to be escaped.

## Main definitions

* `chooseQuotes` - the body of a literal and the quotes that may enclose it.
* `Constant.print` - the text of a constant.
* `printParts` - the text of a literal with replacement fields.
-/

import EntryPoint.Decimal.Shortest
import EntryPoint.Syntax.Tree
import EntryPoint.Text.Quoted

namespace EntryPoint.Syntax

open Decimal Text

/-- Why a tree has no text. -/
inductive Unprintable
  | backslashInField
  | partOfText
  | longInteger
  deriving DecidableEq

/-- Whether one text occurs inside another. -/
def occursIn (needle : List Char) : List Char → Bool
  | [] => needle.isEmpty
  | c :: rest => needle.isPrefixOf (c :: rest) || occursIn needle rest

/-! ### Quotes -/

/-- The quotes of a literal on one line. -/
def shortQuotes : List (List Char) := [['\''], ['"']]

/-- The quotes of a literal that may span lines. -/
def longQuotes : List (List Char) := [['"', '"', '"'], ['\'', '\'', '\'']]

/-- All quotes in order of preference. -/
def allQuotes : List (List Char) := shortQuotes ++ longQuotes

/-- A character of a literal that escapes backslashes and what is not printable. Line feeds and
tabs stay unless `escapeBreaks` is set. -/
def escapePlain (escapeBreaks : Bool) (c : Char) : List Char :=
  if !escapeBreaks && (c = '\n' || c = '\t') then [c]
  else if c = '\\' || !isPrintable c then escapeCode c
  else [c]

/-- Prefers quotes that do not repeat the last character of the body, and escapes that character
where every quote repeats it. -/
def settleQuotes (body : List Char) (quotes : List (List Char)) :
    List Char × List (List Char) :=
  match body.getLast? with
  | none => (body, quotes)
  | some last =>
    -- A quote behind the same character would end the literal too early.
    let repeats (mark : List Char) : Bool := mark.head? = some last
    let quotes := quotes.filter (!repeats ·) ++ quotes.filter repeats
    if (quotes.head?.map repeats).getD false then (body.dropLast ++ ['\\', last], quotes)
    else (body, quotes)

/-- The body of a literal and the quotes among the candidates that may enclose it. Where none
can, the body is that of the quoted literal and one quote is forced. -/
def chooseQuotes (candidates : List (List Char)) (escapeBreaks : Bool) (text : List Char) :
    List Char × List (List Char) :=
  let body := text.flatMap (escapePlain escapeBreaks)
  -- A literal over several lines needs long quotes.
  let spanning := if body.contains '\n' then candidates.filter longQuotes.contains else candidates
  match spanning.filter fun mark => !occursIn mark body with
  | [] =>
    let mark := quoteMark text
    let forced := (candidates.find? (·.contains mark)).getD [mark]
    (text.flatMap (escapeWithin mark), [forced])
  | possible => settleQuotes body possible

/-- A literal in the first quote that fits. -/
def printInQuotes (candidates : List (List Char)) (text : String) : String :=
  let (body, quotes) := chooseQuotes candidates false text.toList
  let mark := quotes.headD []
  String.ofList (mark ++ body ++ mark)

/-! ### Constants -/

/-- Numbers print with the fewest digits that read back; beyond the range stands a numeral that
overflows. -/
def realLayout : Layout where
  maxPoint := 16
  minPoint := -4
  keepsPoint := true
  infinity := "1e309"
  notANumber := "(1e309-1e309)"

/-- Imaginary numbers drop a vanishing fraction. -/
def imaginaryLayout : Layout :=
  { realLayout with keepsPoint := false }

/-- The text of a constant. Inside a replacement field a text is written without backslashes as
far as its quotes allow. -/
def Constant.print (inField : Bool) : Constant → Except Unprintable String
  | .nothing => .ok "None"
  | .truth true => .ok "True"
  | .truth false => .ok "False"
  | .ellipsis => .ok "..."
  | .integer value =>
    if value < Nat.pow 10 maxIntegerDigits then .ok (decimal value) else .error .longInteger
  | .real value => .ok (realLayout.text value)
  | .imaginary value => .ok (imaginaryLayout.text value ++ "j")
  | .text value marked =>
    let literal := if inField then printInQuotes allQuotes value else quote value
    .ok ((if marked then "u" else "") ++ literal)
  | .bytes value => .ok (quoteBytes value)

/-! ### Literals with replacement fields -/

/-- The text around replacement fields, with braces doubled. -/
def doubleBraces (text : String) : String :=
  String.ofList (text.toList.flatMap fun c => if c = '\x7b' || c = '\x7d' then [c, c] else [c])

/-- The bodies of parts one after the other, and the quotes that may enclose them. Each part
narrows the quotes that the parts in front of it left; one that allows none of them forces a quote
of its own on the parts behind it. Parts of plain text have their line breaks escaped. -/
def narrowQuotes : List (List Char) → List (String × Bool) → List Char × List (List Char)
  | quotes, [] => ([], quotes)
  | quotes, (part, isPlain) :: rest =>
    let (body, allowed) := chooseQuotes quotes isPlain part.toList
    let (bodies, quotes) := narrowQuotes allowed rest
    (body ++ bodies, quotes)

/-- The literal made of parts, each marked as plain text or not, in the first quote that they
leave. -/
def printParts (parts : List (String × Bool)) : String :=
  let (body, quotes) := narrowQuotes allQuotes parts
  let mark := quotes.headD []
  String.ofList (mark ++ body ++ mark)

end EntryPoint.Syntax
