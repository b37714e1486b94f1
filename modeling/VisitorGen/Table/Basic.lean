set_option autoImplicit false

/-! # Family tables

The raw input of a generation run: the name of each family and its grammar lines, in the order in
which the families are generated. -/

namespace VisitorGen

/-- A family's name and its unread grammar lines. -/
structure Table where
  family : String
  rules : List String
  deriving DecidableEq, Repr, Inhabited

end VisitorGen
