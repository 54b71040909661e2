/-
# Document values

What a document holds. Mappings keep the order in which keys first appeared, and
keys of equal value are one key, be they written as integers, as floating point
numbers or as truth values.

Texts are sequences of characters. The half of a pair of surrogates that an escape
in a document may give by itself is no character, so no value here holds one: where
it stands alone, it is read as the replacement character.

## Main definitions

* `Value` - the values.
* `Value.lookup?`, `insertPair` - the entries of a mapping.
* `Value.isTruthy` - whether a value counts as present.
* `Value.plainText`, `Value.display` - the text of a value alone and inside collections.
* `Value.hasText` - whether all integers in a value are short enough to be written.
-/

import EntryPoint.Decimal.Shortest
import EntryPoint.Document.Moment
import EntryPoint.Text.Quoted

namespace EntryPoint.Document

open Decimal Text

/-- A value of a document. -/
inductive Value
  | null
  | truth (value : Bool)
  | integer (value : Int)
  | real (value : Binary64)
  | text (value : String)
  | bytes (value : List UInt8)
  | date (value : Date)
  | moment (value : Moment)
  | pair (first second : Value)
  | list (elements : List Value)
  | mapping (pairs : List (Value × Value))
  | set (elements : List Value)
  deriving Inhabited

namespace Value

/-- The number that a value counts as, if it is an integer, a truth value or an integral floating
point number. -/
def integral? : Value → Option Int
  | .truth value => some (if value then 1 else 0)
  | .integer value => some value
  | .real value => value.toInt?
  | _ => none

/-- Whether two scalar values are the same key. A collection is never a key, and what is not a
number equals nothing. -/
def sameKey (a b : Value) : Bool :=
  match a.integral?, b.integral? with
  | some m, some n => m = n
  | some _, none | none, some _ => false
  | none, none =>
    match a, b with
    | .null, .null => true
    | .real x, .real y => x ≠ .notANumber && x = y
    | .text s, .text t => s = t
    | .bytes s, .bytes t => s = t
    | .date s, .date t => s = t
    | .moment s, .moment t => s.isSimultaneous t
    | _, _ => false

/-- Whether a value can be a key. -/
def isKey : Value → Bool
  | .pair _ _ | .list _ | .mapping _ | .set _ => false
  | _ => true

/-- The name of the kind of a value. -/
def kindName : Value → String
  | .null => "NoneType"
  | .truth _ => "bool"
  | .integer _ => "int"
  | .real _ => "float"
  | .text _ => "str"
  | .bytes _ => "bytes"
  | .date _ => "date"
  | .moment _ => "datetime"
  | .pair _ _ => "tuple"
  | .list _ => "list"
  | .mapping _ => "dict"
  | .set _ => "set"

/-- Whether a value counts as present: not null, not false, not zero, and not empty. -/
def isTruthy : Value → Bool
  | .null => false
  | .truth value => value
  | .integer value => value ≠ 0
  | .real value => !value.isZero
  | .text value => !value.isEmpty
  | .bytes value => !value.isEmpty
  | .date _ | .moment _ | .pair _ _ => true
  | .list elements => !elements.isEmpty
  | .mapping pairs => !pairs.isEmpty
  | .set elements => !elements.isEmpty

/-- The value of a key among pairs. -/
def lookupPair? (key : Value) (pairs : List (Value × Value)) : Option Value :=
  (pairs.find? (·.1.sameKey key)).map (·.2)

/-- The value of a key given by text. -/
def lookup? (key : String) (pairs : List (Value × Value)) : Option Value :=
  lookupPair? (.text key) pairs

/-- The value of a key given by text; null where the key is missing. -/
def lookupD (key : String) (pairs : List (Value × Value)) : Value :=
  (lookup? key pairs).getD .null

end Value

/-- Sets the value of a key: in place if the key is there, at the end otherwise. -/
def insertPair (pairs : List (Value × Value)) (key value : Value) : List (Value × Value) :=
  match pairs with
  | [] => [(key, value)]
  | (other, old) :: rest =>
    if other.sameKey key then (other, value) :: rest
    else (other, old) :: insertPair rest key value

namespace Value

/-! ### Texts -/

/-- Numbers are written with the fewest digits that read back. -/
def realLayout : Layout where
  maxPoint := 16
  minPoint := -4
  keepsPoint := true
  infinity := "inf"
  notANumber := "nan"

mutual

/-- The text of a value inside collections. -/
def display : Value → String
  | .null => "None"
  | .truth true => "True"
  | .truth false => "False"
  | .integer value => decimalInt value
  | .real value => realLayout.text value
  | .text value => quote value
  | .bytes value => quoteBytes value
  | .date value => value.constructor
  | .moment value => value.constructor
  | .pair first second => "(" ++ first.display ++ ", " ++ second.display ++ ")"
  | .list elements => "[" ++ ", ".intercalate (displayAll elements) ++ "]"
  | .mapping pairs => "\x7b" ++ ", ".intercalate (displayPairs pairs) ++ "\x7d"
  | .set [] => "set()"
  | .set (first :: rest) =>
    "\x7b" ++ ", ".intercalate (first.display :: displayAll rest) ++ "\x7d"

def displayAll : List Value → List String
  | [] => []
  | first :: rest => first.display :: displayAll rest

def displayPairs : List (Value × Value) → List String
  | [] => []
  | (key, value) :: rest => (key.display ++ ": " ++ value.display) :: displayPairs rest

end

/-- The text of a value alone: texts, dates and moments are written as they are. -/
def plainText : Value → String
  | .text value => value
  | .date value => value.text
  | .moment value => value.text
  | value => value.display

mutual

/-- The integers in a value, those in keys included. -/
def integers : Value → List Int
  | .integer value => [value]
  | .pair first second => first.integers ++ second.integers
  | .list elements | .set elements => integersOf elements
  | .mapping pairs => integersOfPairs pairs
  | _ => []

def integersOf : List Value → List Int
  | [] => []
  | first :: rest => first.integers ++ integersOf rest

def integersOfPairs : List (Value × Value) → List Int
  | [] => []
  | (key, value) :: rest => key.integers ++ (value.integers ++ integersOfPairs rest)

end

/-- Whether a value has a text: an integer of too many digits has none, and no value that holds
one has. -/
def hasText (value : Value) : Bool :=
  value.integers.all fun n => n.natAbs < Nat.pow 10 maxIntegerDigits

end Value

end EntryPoint.Document
