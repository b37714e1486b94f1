set_option autoImplicit false

/-! # Identifiers

A name that may be declared: an ASCII letter or underscore, then ASCII letters, digits and
underscores. -/

namespace VisitorGen.Text

/-- Whether a character may start an identifier. -/
def isIdentifierStart (c : Char) : Bool :=
  c.isAlpha || c == '_'

/-- Whether a character may stand in an identifier after its start. -/
def isIdentifierPart (c : Char) : Bool :=
  c.isAlphanum || c == '_'

/-- Whether a text is an identifier. -/
def isIdentifier : List Char → Bool
  | [] => false
  | c :: cs => isIdentifierStart c && cs.all isIdentifierPart

theorem isIdentifierPart_of_start {c : Char} (h : isIdentifierStart c = true) :
    isIdentifierPart c = true := by
  simp only [isIdentifierStart, isIdentifierPart, Char.isAlphanum, Bool.or_eq_true] at h ⊢
  exact h.elim (fun ha => .inl (.inl ha)) .inr

/-- Every character of an identifier may stand in one. -/
theorem all_isIdentifierPart {cs : List Char} (h : isIdentifier cs = true) :
    cs.all isIdentifierPart = true := by
  cases cs with
  | nil => rfl
  | cons c cs =>
    simp only [isIdentifier, Bool.and_eq_true] at h
    simp only [List.all_cons, Bool.and_eq_true]
    exact ⟨isIdentifierPart_of_start h.1, h.2⟩

end VisitorGen.Text
