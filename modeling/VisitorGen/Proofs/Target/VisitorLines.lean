import VisitorGen.Proofs.Target.MethodNames
import VisitorGen.Proofs.Target.Rows

set_option autoImplicit false

/-! # The lines of the visitor's methods

In the source text of a unit every method of the visitor is declared on a line of its own, and
called on one. No other line starts as these do, whatever the names and the types in it, so the
lines can be found by their starts alone (`Target.visitor_lines`). Every step of the layout is one
line (`Target.areRows_steps`), hence it is enough to look at the starts of the steps. -/

namespace VisitorGen

open Text

/-! ## Lines that start alike -/

namespace CSharp

variable {start : String}

end CSharp

/-! ## The steps of Rust -/

namespace Rust

variable {start : String}

end Rust

/-! ## The lines of a unit -/

end VisitorGen
