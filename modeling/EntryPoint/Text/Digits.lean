/-
# Digits and numerals

Reading and writing natural numbers in bases up to sixteen. Digits are ASCII;
letters stand for ten to fifteen in either case when read and are lower case
when written.

## Main definitions

* `digitValue?` - the value of one digit.
* `ofDigits` - the number that a list of digits spells.
* `numeral` - the shortest numeral of a number.
* `paddedNumeral` - a numeral with leading zeros up to a width.
-/

namespace EntryPoint.Text

/-- The value of a digit or of one of the letters `a` to `f`. -/
def digitValue? (c : Char) : Option Nat :=
  if '0' ≤ c ∧ c ≤ '9' then some (c.toNat - 48)
  else if 'a' ≤ c ∧ c ≤ 'f' then some (c.toNat - 87)
  else if 'A' ≤ c ∧ c ≤ 'F' then some (c.toNat - 55)
  else none

/-- Whether a character is a digit of the base. -/
def isDigitOf (base : Nat) (c : Char) : Bool :=
  match digitValue? c with
  | some value => value < base
  | none => false

/-- The number spelled by digits of the base, most significant first; characters that are no
digits count as zero. -/
def ofDigits (base : Nat) (digits : List Char) : Nat :=
  digits.foldl (fun total c => total * base + (digitValue? c).getD 0) 0

/-- The digit that stands for a value below sixteen. -/
def digitOf (value : Nat) : Char :=
  if value < 10 then Char.ofNat (48 + value) else Char.ofNat (87 + value)

/-- The shortest numeral of a number in the base. -/
def numeral (base n : Nat) : List Char :=
  Nat.toDigits base n

/-- The numeral of a number, filled up with leading zeros to the given width. -/
def paddedNumeral (base width n : Nat) : List Char :=
  let digits := numeral base n
  List.replicate (width - digits.length) '0' ++ digits

/-- The decimal text of a natural number. -/
def decimal (n : Nat) : String :=
  String.ofList (numeral 10 n)

/-- The decimal text of an integer, with a minus sign below zero. -/
def decimalInt (n : Int) : String :=
  match n with
  | .ofNat n => decimal n
  | .negSucc n => "-" ++ decimal (n + 1)

/-- The most digits of an integer in decimal notation that is read or written. -/
def maxIntegerDigits : Nat := 4300

end EntryPoint.Text
