/-
# Writing JSON

Values are written on one line, or on lines of their own with an indentation.
Characters beyond ASCII are kept or escaped by code units. What JSON cannot hold is
written as text.

## Main definitions

* `JsonStyle` - how values are laid out.
* `writeJson` - the text of a value.
-/

import EntryPoint.Document.Value

namespace EntryPoint.Document

open Decimal Text

/-- How values are laid out: the indentation of a level, if there are lines, and whether characters
beyond ASCII are escaped. -/
structure JsonStyle where
  indentation : Option Nat := none
  escapes : Bool := true

/-- The escape of a code unit. -/
def unitEscape (unit : Nat) : List Char :=
  '\\' :: 'u' :: paddedNumeral 16 4 unit

/-- The escape of a character by one code unit, or by two beyond the first plane. -/
def codeEscape (c : Char) : List Char :=
  let n := c.toNat
  if n < 0x10000 then unitEscape n
  else unitEscape (0xd800 + (n - 0x10000) / 0x400) ++ unitEscape (0xdc00 + (n - 0x10000) % 0x400)

/-- A character of a text between quotes. -/
def escapeJson (escapes : Bool) (c : Char) : List Char :=
  if c = '"' then ['\\', '"']
  else if c = '\\' then ['\\', '\\']
  else if c = '\n' then ['\\', 'n']
  else if c = '\r' then ['\\', 'r']
  else if c = '\t' then ['\\', 't']
  else if c = '\x0c' then ['\\', 'f']
  else if c = '\x08' then ['\\', 'b']
  else if c.toNat < 32 ∨ (escapes ∧ 126 < c.toNat) then codeEscape c
  else [c]

/-- A text between quotes. -/
def jsonText (style : JsonStyle) (text : String) : String :=
  String.ofList ('"' :: text.toList.flatMap (escapeJson style.escapes) ++ ['"'])

/-- Numbers beyond the range have names. -/
def jsonLayout : Layout :=
  { Value.realLayout with infinity := "Infinity", notANumber := "NaN" }

/-- A key: texts as they are, other scalars by their written form. -/
def jsonKey (style : JsonStyle) (key : Value) : String :=
  match key with
  | .text text => jsonText style text
  | .null => "\"null\""
  | .truth true => "\"true\""
  | .truth false => "\"false\""
  | .integer n => "\"" ++ decimalInt n ++ "\""
  | .real x => "\"" ++ jsonLayout.text x ++ "\""
  | other => jsonText style other.plainText

/-- Items between brackets, on lines of their own at a depth if there are lines. -/
def enclose (style : JsonStyle) (depth : Nat) (opening closing : String) (items : List String) :
    String :=
  if items.isEmpty then opening ++ closing
  else
    match style.indentation with
    | none => opening ++ ", ".intercalate items ++ closing
    | some width =>
      let line (depth : Nat) := "\n" ++ String.ofList (List.replicate (width * depth) ' ')
      let inner := line (depth + 1)
      opening ++ inner ++ ("," ++ inner).intercalate items ++ line depth ++ closing

mutual

/-- The text of a value at a depth. -/
def writeJsonAt (style : JsonStyle) (depth : Nat) : Value → String
  | .null => "null"
  | .truth true => "true"
  | .truth false => "false"
  | .integer n => decimalInt n
  | .real x => jsonLayout.text x
  | .text text => jsonText style text
  | .list elements => enclose style depth "[" "]" (writeJsonElements style (depth + 1) elements)
  | .mapping pairs =>
    enclose style depth "\x7b" "\x7d" (writeJsonPairs style (depth + 1) pairs)
  | other => jsonText style other.plainText

def writeJsonElements (style : JsonStyle) (depth : Nat) : List Value → List String
  | [] => []
  | first :: rest => writeJsonAt style depth first :: writeJsonElements style depth rest

def writeJsonPairs (style : JsonStyle) (depth : Nat) : List (Value × Value) → List String
  | [] => []
  | (key, value) :: rest =>
    (jsonKey style key ++ ": " ++ writeJsonAt style depth value) ::
      writeJsonPairs style depth rest

end

/-- The text of a value. -/
def writeJson (style : JsonStyle) (value : Value) : String :=
  writeJsonAt style 0 value

end EntryPoint.Document
