/-
# Association lists

An association list gives values to keys, each of which occurs once. The keys
stand in the order in which they first came; a new value takes the place of the
old one.

## Main definitions

* `Association.insert` - sets the value of a key.
* `Association.update` - sets the values of the keys of another list.
-/

namespace EntryPoint.Association

variable {α β : Type} [DecidableEq α]

/-- Sets the value of a key: in place if the key is there, at the end otherwise. -/
def insert (pairs : List (α × β)) (key : α) (value : β) : List (α × β) :=
  match pairs with
  | [] => [(key, value)]
  | first :: rest =>
    if first.1 = key then (key, value) :: rest else first :: insert rest key value

/-- Sets the values of the keys of another list, in order. -/
def update (pairs further : List (α × β)) : List (α × β) :=
  further.foldl (fun pairs pair => insert pairs pair.1 pair.2) pairs

end EntryPoint.Association
