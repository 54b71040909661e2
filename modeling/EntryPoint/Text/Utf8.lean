/-
# UTF-8

Text as bytes. A byte sequence that spells no text is refused with the place of
the first bytes that fit nowhere and the reason.

## Main definitions

* `utf8Bytes` - the bytes of a text.
* `readUtf8` - the text of bytes.
* `Utf8Mistake.text` - what is wrong with bytes that spell none.
-/

import EntryPoint.Text.Digits

namespace EntryPoint.Text

/-- The bytes of a text. -/
def utf8Bytes (text : String) : List UInt8 :=
  text.toUTF8.toList

/-- Why bytes fit nowhere. -/
inductive Utf8Reason
  | start
  | continuation
  | truncated
  deriving DecidableEq

/-- The wording of a reason. -/
def Utf8Reason.text : Utf8Reason → String
  | .start => "invalid start byte"
  | .continuation => "invalid continuation byte"
  | .truncated => "unexpected end of data"

/-- Bytes that fit nowhere: where they stand, how many they are, the first of them, and the
reason. -/
structure Utf8Mistake where
  position : Nat
  length : Nat
  first : Nat
  reason : Utf8Reason
  deriving DecidableEq

/-- The text of a mistake. -/
def Utf8Mistake.text (mistake : Utf8Mistake) : String :=
  let place :=
    if mistake.length = 1 then
      "byte 0x" ++ String.ofList (paddedNumeral 16 2 mistake.first) ++ " in position " ++
        decimal mistake.position
    else
      "bytes in position " ++ decimal mistake.position ++ "-" ++
        decimal (mistake.position + mistake.length - 1)
  "'utf-8' codec can't decode " ++ place ++ ": " ++ mistake.reason.text

/-- How many bytes follow a first one, the bits that it gives, and the range of the second one. -/
def leadByte? (byte : Nat) : Option (Nat × Nat × Nat × Nat) :=
  if byte < 0x80 then some (0, byte, 0, 0)
  else if byte < 0xc2 then none
  else if byte < 0xe0 then some (1, byte - 0xc0, 0x80, 0xbf)
  else if byte < 0xf0 then
    some (2, byte - 0xe0, if byte = 0xe0 then 0xa0 else 0x80, if byte = 0xed then 0x9f else 0xbf)
  else if byte < 0xf5 then
    some (3, byte - 0xf0, if byte = 0xf0 then 0x90 else 0x80, if byte = 0xf4 then 0x8f else 0xbf)
  else none

/-- The bits of so many bytes added to those before, the next of which must lie in a range, or how
many bytes fit before the one that does not and the reason. -/
def continueCode : Nat → Nat → Nat → Nat → List Nat → Except (Nat × Utf8Reason) (Nat × List Nat)
  | 0, code, _, _, rest => .ok (code, rest)
  | _ + 1, _, _, _, [] => .error (0, .truncated)
  | count + 1, code, low, high, byte :: rest =>
    if low ≤ byte ∧ byte ≤ high then
      (continueCode count (code * 64 + byte % 64) 0x80 0xbf rest).mapError fun (fit, reason) =>
        (fit + 1, reason)
    else .error (0, .continuation)

/-- The characters of bytes from a position on. Every step takes up at least one byte. -/
def readUtf8From : Nat → Nat → List Nat → Except Utf8Mistake (List Char)
  | 0, _, _ => .ok []
  | _ + 1, _, [] => .ok []
  | fuel + 1, position, byte :: rest =>
    match leadByte? byte with
    | none => .error ⟨position, 1, byte, .start⟩
    | some (count, code, low, high) =>
      match continueCode count code low high rest with
      | .error (fit, reason) => .error ⟨position, fit + 1, byte, reason⟩
      | .ok (code, rest) => do
        let others ← readUtf8From fuel (position + count + 1) rest
        .ok (Char.ofNat code :: others)

/-- The text of bytes. -/
def readUtf8 (bytes : List UInt8) : Except Utf8Mistake String := do
  let chars ← readUtf8From (bytes.length + 1) 0 (bytes.map UInt8.toNat)
  .ok (String.ofList chars)

/-- The text with every line end as a line feed. -/
def unifyLineEnds : List Char → List Char
  | [] => []
  | '\r' :: '\n' :: rest => '\n' :: unifyLineEnds rest
  | c :: rest => (if c = '\r' then '\n' else c) :: unifyLineEnds rest

end EntryPoint.Text
