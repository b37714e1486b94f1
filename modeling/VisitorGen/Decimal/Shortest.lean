set_option autoImplicit false

/-! # Shortest decimals

A binary floating-point number stands for every real that rounds to it. Its shortest decimal is
the one with the fewest digits among those reals, and of two such the nearer to the number itself.

The number is `m · 2 ^ q`. The search runs over the decimal grids of 1, 2, … 17 digits: if any
point of a grid rounds to the number, so does one of the number's two neighbours on that grid. All
arithmetic is exact, on natural numbers. -/

namespace VisitorGen.Decimal

/-- A positive rational `num / den`, to be compared with others. -/
structure Ratio where
  num : Nat
  den : Nat
  deriving Repr

/-- The rational `n · 2 ^ q`. -/
def Ratio.binary (n : Nat) (q : Int) : Ratio :=
  if q < 0 then ⟨n, Nat.pow 2 (-q).toNat⟩ else ⟨n * Nat.pow 2 q.toNat, 1⟩

/-- The rational `n · 10 ^ k`. -/
def Ratio.decimal (n : Nat) (k : Int) : Ratio :=
  if k < 0 then ⟨n, Nat.pow 10 (-k).toNat⟩ else ⟨n * Nat.pow 10 k.toNat, 1⟩

/-- Whether one rational is less than another. -/
def Ratio.lt (a b : Ratio) : Bool :=
  a.num * b.den < b.num * a.den

/-- The reals that round to one floating-point number: those between two ends, which belong to it
    or not. -/
structure Rounding where
  value : Ratio
  low : Ratio
  high : Ratio
  closed : Bool

/-- The reals that round to `m · 2 ^ q`, with ties to the even significand. The gap below a power
    of two, other than the least one, is half as wide as the gap above it. -/
def Rounding.ofBinary (m : Nat) (q : Int) (narrow : Bool) : Rounding where
  value := .binary (4 * m) (q - 2)
  low := .binary (if narrow then 4 * m - 1 else 4 * m - 2) (q - 2)
  high := .binary (4 * m + 2) (q - 2)
  closed := m % 2 == 0

/-- Whether a rational rounds to the number. -/
def Rounding.holds (r : Rounding) (x : Ratio) : Bool :=
  if r.closed then !x.lt r.low && !r.high.lt x else r.low.lt x && x.lt r.high

/-! ## Search -/

/-- The least `j`, from `j` on, with `num · 10 ^ j ≥ den`, found within the given number of
    tries. -/
def leastScale : Nat → Nat → Ratio → Nat
  | 0, j, _ => j
  | tries + 1, j, x => if x.den ≤ x.num * Nat.pow 10 j then j else leastScale tries (j + 1) x

/-- The decimal exponent of a rational: the greatest `e` with `10 ^ e` not above it. -/
def Ratio.exponent (x : Ratio) : Int :=
  if x.den ≤ x.num then (Nat.toDigits 10 (x.num / x.den)).length - 1
  else -(leastScale 400 0 x : Int)

/-- The greatest multiple of `10 ^ k` not above a rational, as that multiple. -/
def Ratio.floorAt (x : Ratio) (k : Int) : Nat :=
  let grid := Ratio.decimal 1 k
  x.num * grid.den / (x.den * grid.num)

/-- The neighbour of the number on the grid of `10 ^ k` that rounds to it, if there is one; of two
    the nearer, and of two equally near the even one. -/
def Rounding.onGrid? (r : Rounding) (k : Int) : Option Nat :=
  let below := r.value.floorAt k
  let above := below + 1
  let lowFits := below ≠ 0 && r.holds (.decimal below k)
  let highFits := r.holds (.decimal above k)
  if lowFits && highFits then
    let twice : Ratio := { r.value with num := 2 * r.value.num }
    let middle := Ratio.decimal (below + above) k
    if twice.lt middle then some below
    else if middle.lt twice then some above
    else some (if below % 2 = 0 then below else above)
  else if lowFits then some below
  else if highFits then some above
  else none

/-- The first hit on the grids of `n`, `n + 1`, … digits, within the given number of tries: the
    digits and the exponent of the grid. -/
def Rounding.search (r : Rounding) : Nat → Nat → Nat × Int
  | 0, _ => (0, 0)
  | tries + 1, n =>
    let k := r.value.exponent - n + 1
    match r.onGrid? k with
    | some digits => (digits, k)
    | none => r.search tries (n + 1)

/-- The shortest decimal `d · 10 ^ k` that rounds to the number; 17 digits always suffice. -/
def Rounding.shortest (r : Rounding) : Nat × Int :=
  r.search 17 1

end VisitorGen.Decimal
