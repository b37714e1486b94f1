set_option autoImplicit false

/-! # Sets of characters as runs of code points

A Unicode property is given by a short list of arithmetic runs: every code point, or every second
one, between two ends. A case mapping is a list of runs that are moved by an offset. -/

namespace VisitorGen.Text

/-- The code points `first`, `first + step`, … up to `last`. -/
structure CodeRange where
  first : Nat
  last : Nat
  step : Nat
  deriving DecidableEq, Repr

/-- Whether a code point lies on the run. -/
def CodeRange.contains (r : CodeRange) (n : Nat) : Bool :=
  r.first ≤ n && n ≤ r.last && (n - r.first) % r.step == 0

/-- Whether a character lies on one of the runs. -/
def inRanges (rs : List CodeRange) (c : Char) : Bool :=
  rs.any (·.contains c.toNat)

/-- A run whose code points are all moved by one offset. -/
structure CodeShift where
  range : CodeRange
  offset : Int
  deriving DecidableEq, Repr

/-- The image of a character under the first run that holds it, or the character itself. -/
def shiftBy (ss : List CodeShift) (c : Char) : Char :=
  match ss.find? (·.range.contains c.toNat) with
  | some s => Char.ofNat (Int.toNat (c.toNat + s.offset))
  | none => c

end VisitorGen.Text
