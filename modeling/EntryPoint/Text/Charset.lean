/-
# Character sets

Bytes from the network are read by the character set that their type of content
names. Where it names none, or none that is known, they are UTF-8. Bytes that
spell nothing are shown as replacement characters.

## Main definitions

* `Charset` - the character sets.
* `Charset.ofContentType` - the one that a type of content names.
* `Charset.decode` - the text of bytes.
-/

import EntryPoint.Text.Character
import EntryPoint.Text.Table
import EntryPoint.Text.Utf8

namespace EntryPoint.Text

/-- The character sets. A mark at the start of a text in UTF-8 may be left out of it. -/
inductive Charset
  | utf8
  | markedUtf8
  | ascii
  | latin1
  | windows1252
  deriving DecidableEq

namespace Charset

/-! ### Names -/

/-- The names of the character sets. -/
def names : List (Charset × List String) :=
  [(utf8, words "utf_8 utf8 utf u8 utf8_ucs2 utf8_ucs4 cp65001"),
    (markedUtf8, ["utf_8_sig"]),
    (ascii, words "ascii us_ascii us 646 ansi_x3.4_1968 ansi_x3_4_1968 ansi_x3.4_1986 cp367 csascii
      ibm367 iso646_us iso_646.irv_1991 iso_ir_6"),
    (latin1, words "latin_1 latin1 latin l1 iso_8859_1 iso8859_1 iso8859 8859 iso_8859_1_1987
      iso_ir_100 cp819 csisolatin1 ibm819"),
    (windows1252, words "windows_1252 cp1252 1252")]

/-- A name in the form in which names are compared: lower case, with one low line for whatever
stands between letters, digits and points. -/
def comparedName (name : List Char) : String :=
  "_".intercalate (words (String.ofList
    (name.map fun c => if c.isAlphanum || c = '.' then c.toLower else ' ')))

/-- The character set of a name. -/
def ofName? (name : List Char) : Option Charset :=
  (names.find? fun (_, names) => names.contains (comparedName name)).map (·.1)

/-! ### Types of content -/

/-- The parts of a type of content between semicolons that are not quoted: the first part and the
others. -/
def contentParts : Bool → List Char → List Char × List (List Char)
  | _, [] => ([], [])
  | quoted, '\\' :: '"' :: rest =>
    let (first, others) := contentParts quoted rest
    ('\\' :: '"' :: first, others)
  | quoted, c :: rest =>
    let (first, others) := contentParts (if c = '"' then !quoted else quoted) rest
    if c = ';' && !quoted then ([], first :: others) else (c :: first, others)

/-- A text without the quotes or angle brackets around it. -/
def unquoted (text : List Char) : List Char :=
  let ends (first last : Char) : Bool :=
    2 ≤ text.length && text.head? = some first && text.getLast? = some last
  if ends '"' '"' || ends '<' '>' then (text.drop 1).dropLast else text

/-- The value that a part of a type of content gives to a name. -/
def valueFor? (name : String) (part : List Char) : Option (List Char) :=
  let key := trimBlanks (part.takeWhile (· ≠ '='))
  match part.dropWhile (· ≠ '=') with
  | _ :: value =>
    if lowerAscii (String.ofList key) = name then some (unquoted (trimBlanks value)) else none
  | [] => none

/-- The character set that a type of content names. -/
def ofContentType (contentType : String) : Charset :=
  let (first, others) := contentParts false contentType.toList
  (((first :: others).findSome? (valueFor? "charset")).bind ofName?).getD utf8

/-! ### Decoding -/

/-- What stands for bytes that spell nothing. -/
def replacement : Char := Char.ofNat 0xfffd

/-- The characters of bytes in UTF-8. Every step takes up at least one byte. -/
def utf8Characters : Nat → List Nat → List Char
  | 0, _ => []
  | _ + 1, [] => []
  | fuel + 1, byte :: rest =>
    match leadByte? byte with
    | none => replacement :: utf8Characters fuel rest
    | some (count, code, low, high) =>
      match continueCode count code low high rest with
      | .error (fit, _) => replacement :: utf8Characters fuel (rest.drop fit)
      | .ok (code, rest) => Char.ofNat code :: utf8Characters fuel rest

/-- The characters of the bytes from 0x80 to 0x9f in Windows-1252; zero where there is none. -/
def windowsCodes : List Nat :=
  (words "20ac 0 201a 192 201e 2026 2020 2021 2c6 2030 160 2039 152 0 17d 0
    0 2018 2019 201c 201d 2022 2013 2014 2dc 2122 161 203a 153 0 17e 178").map
    fun code => ofDigits 16 code.toList

/-- The character of a byte in Windows-1252. -/
def windowsCharacter (byte : Nat) : Char :=
  if 0x80 ≤ byte ∧ byte < 0xa0 then
    match windowsCodes[byte - 0x80]? with
    | some 0 | none => replacement
    | some code => Char.ofNat code
  else Char.ofNat byte

/-- The text of bytes. -/
def decode (charset : Charset) (bytes : List UInt8) : String :=
  let bytes := bytes.map UInt8.toNat
  let utf8Text := utf8Characters (bytes.length + 1) bytes
  String.ofList (match charset with
    | .utf8 => utf8Text
    | .markedUtf8 => if utf8Text.head? = some (Char.ofNat 0xfeff) then utf8Text.drop 1 else utf8Text
    | .ascii => bytes.map fun byte => if byte < 0x80 then Char.ofNat byte else replacement
    | .latin1 => bytes.map Char.ofNat
    | .windows1252 => bytes.map windowsCharacter)

end Charset

end EntryPoint.Text
