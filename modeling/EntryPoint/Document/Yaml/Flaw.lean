/-
# Flaws of a text

Why a text is not read: it is not what the format allows, or a value in it has
text that its kind cannot have.
-/

import EntryPoint.Failure

namespace EntryPoint.Document.Yaml

/-- Why a text is not read. -/
inductive Flaw
  | malformed
  | unforeseen (kind : UnforeseenKind)
  deriving DecidableEq

end EntryPoint.Document.Yaml
