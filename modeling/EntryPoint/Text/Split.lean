/-
# Splitting texts

A text is cut at each place where a separator stands. There is one part more than
there are separators, so the parts are given as the first one and the others.

## Main definitions

* `splitAt` - the parts between separators.
* `partsOf` - the same as one list.
-/

namespace EntryPoint.Text

/-- The parts of a text between separators: the first one and the others. -/
def splitAt (separator : Char) : List Char → List Char × List (List Char)
  | [] => ([], [])
  | c :: rest =>
    let (first, others) := splitAt separator rest
    if c = separator then ([], first :: others) else (c :: first, others)

/-- The parts of a text between separators. -/
def partsOf (separator : Char) (text : List Char) : List (List Char) :=
  let (first, others) := splitAt separator text
  first :: others

end EntryPoint.Text
