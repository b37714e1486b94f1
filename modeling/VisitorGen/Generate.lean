import VisitorGen.Declaration.Reader
import VisitorGen.Target.Basic

set_option autoImplicit false

/-! # Generating a unit

A *unit* is the complete source text of one family. It is generated in one pass: read the grammar
lines, check the names against the target, lay out the pieces. Nothing is written anywhere. -/

namespace VisitorGen

/-- The source text of a family and the file that it belongs in. -/
structure SourceUnit where
  family : String
  fileName : String
  source : String
  deriving DecidableEq, Repr

/-- The unit of a family, whatever its names. -/
def Target.unit (t : Target) (family : Family) : SourceUnit where
  family := family.name
  fileName := t.fileName family
  source := ((Sheet.empty t.indentUnit).run (t.steps family)).text

/-- Read the lines of a family and check its names against the target. -/
def Target.readFamily (t : Target) (family : String) (lines : List String) :
    Except FamilyError Family :=
  match Family.read family lines with
  | .error e => .error e
  | .ok f =>
    match t.check f with
    | .error e => .error e
    | .ok () => .ok f

/-- Generate the unit of a family from its grammar lines. -/
def Target.generate (t : Target) (family : String) (lines : List String) :
    Except FamilyError SourceUnit :=
  (t.readFamily family lines).map t.unit

end VisitorGen
