/-
# Bytes as text

Four characters of an alphabet of sixty-four spell three bytes. Characters
outside the alphabet do not count; padding ends the text where it fills a group
up.
-/

namespace EntryPoint.Document.Yaml

/-- The value of a character of the alphabet. -/
def sextet? (c : Char) : Option Nat :=
  if c.isUpper then some (c.toNat - 65)
  else if c.isLower then some (c.toNat - 71)
  else if c.isDigit then some (c.toNat + 4)
  else if c = '+' then some 62
  else if c = '/' then some 63
  else none

/-- The bytes of a text, given the values of the group so far and the number of padding characters
just before. The last group must be complete or padded. -/
def bytesFrom (group : List Nat) (padding : Nat) : List Char → Option (List UInt8)
  | [] => if group.isEmpty then some [] else none
  | c :: rest =>
    if c = '=' then
      if 2 ≤ group.length then
        if 4 ≤ group.length + padding + 1 then some []
        else bytesFrom group (padding + 1) rest
      else bytesFrom group padding rest
    else
      match sextet? c, group with
      | none, _ => bytesFrom group padding rest
      | some value, [] => bytesFrom [value] 0 rest
      | some value, [a] => (bytesFrom [a, value] 0 rest).map ((a * 4 + value / 16).toUInt8 :: ·)
      | some value, [a, b] =>
        (bytesFrom [a, b, value] 0 rest).map ((b % 16 * 16 + value / 4).toUInt8 :: ·)
      | some value, _ :: _ :: c :: _ =>
        (bytesFrom [] 0 rest).map ((c % 4 * 64 + value).toUInt8 :: ·)

/-- The bytes that a text spells. -/
def bytesOf? (text : List Char) : Option (List UInt8) :=
  if text.all (·.toNat < 128) then bytesFrom [] 0 text else none

end EntryPoint.Document.Yaml
