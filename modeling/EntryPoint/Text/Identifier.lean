/-
# Identifiers and keywords

A name that a module can bind is an identifier that is not a keyword. Soft
keywords such as `match` are ordinary names.
-/

import EntryPoint.Text.CompatibilityForm

namespace EntryPoint.Text

/-- The reserved words. -/
def keywords : List String :=
  ["False", "None", "True", "and", "as", "assert", "async", "await", "break", "class", "continue",
    "def", "del", "elif", "else", "except", "finally", "for", "from", "global", "if", "import",
    "in", "is", "lambda", "nonlocal", "not", "or", "pass", "raise", "return", "try", "while",
    "with", "yield"]

/-- Whether a word is reserved. -/
def isKeyword (word : String) : Bool :=
  keywords.contains word

/-- Whether a text has the form of a name: one opening character, then any number of continuing
characters. -/
def isIdentifier (text : String) : Bool :=
  match text.toList with
  | [] => false
  | first :: rest => isIdentifierStart first && rest.all isIdentifierRest

/-- Whether a text is an identifier that is not reserved. -/
def isBindable (text : String) : Bool :=
  isIdentifier text && !isKeyword text

end EntryPoint.Text
