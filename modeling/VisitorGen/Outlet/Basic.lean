import VisitorGen.Generate
import VisitorGen.IoError

set_option autoImplicit false

/-! # Outlets

An *outlet* is where finished units go. It has a state, and it takes one unit at a time: each write
succeeds or fails, and leads to a new state in either case. -/

namespace VisitorGen

/-- A destination for units, with the states `σ` and the errors `ε`. -/
structure Outlet (σ : Type) (ε : Type := IoError) where
  write : σ → SourceUnit → Except ε Unit × σ

namespace Outlet

/-- An outlet that keeps every unit, in order. -/
def memory : Outlet (List SourceUnit) where
  write units u := (.ok (), units ++ [u])

/-- An outlet that takes no unit for the given files, as if it were full, and is otherwise like
    another one. -/
def refusing {σ : Type} (files : List String) (outlet : Outlet σ) : Outlet σ where
  write s u := if u.fileName ∈ files then (.error .full, s) else outlet.write s u

end Outlet

end VisitorGen
