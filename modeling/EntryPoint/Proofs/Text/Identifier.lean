/-
# Characters of identifiers

An identifier holds no character that a language gives a meaning of its own, so
it is never mistaken for a text that has such a character.
-/

import EntryPoint.Text.Identifier

namespace EntryPoint.Text

variable {text : String} {c : Char}

theorem isIdentifier_of_isBindable (bindable : isBindable text) : isIdentifier text := by
  rw [isBindable, Bool.and_eq_true] at bindable
  exact bindable.1

/-- Every character of an identifier may open or continue a name. -/
theorem mem_identifier (identifier : isIdentifier text) (member : c ∈ text.toList) :
    isIdentifierStart c ∨ isIdentifierRest c := by
  rw [isIdentifier] at identifier
  split at identifier
  · cases identifier
  · rename_i first rest same
    rw [Bool.and_eq_true, List.all_eq_true] at identifier
    rw [same, List.mem_cons] at member
    rcases member with rfl | member
    · exact .inl identifier.1
    · exact .inr (identifier.2 c member)

theorem notMem_identifier (identifier : isIdentifier text) (starts : isIdentifierStart c = false)
    (continues : isIdentifierRest c = false) : c ∉ text.toList := by
  intro member
  have allowed := mem_identifier identifier member
  rw [starts, continues] at allowed
  simp at allowed

theorem point_notMem_identifier (identifier : isIdentifier text) : '.' ∉ text.toList :=
  notMem_identifier identifier (by decide) (by decide)

theorem ne_of_isBindable {other : String} (bindable : isBindable text)
    (unbindable : isBindable other = false) : text ≠ other := by
  rintro rfl
  rw [bindable] at unbindable
  cases unbindable

end EntryPoint.Text
