import VisitorGen.Decimal.Shortest

set_option autoImplicit false

/-! # The notation of floating-point numbers

Numbers are written with the fewest digits that read back as the same number. Those from a hundred
thousandth up to ten quadrillion are positional and keep a `.0`; the others have one digit before
the point and a signed exponent. -/

namespace VisitorGen.Decimal

/-- The digits of a decimal without the zeros at its end, and the exponent of its first digit. -/
def scientific (digits : Nat) (k : Int) : List Char × Int :=
  let ds := Nat.toDigits 10 digits
  let significant := (ds.reverse.dropWhile (· == '0')).reverse
  (significant, k + ds.length - 1)

/-- The text of a positive decimal whose digits are `ds` and whose first digit stands for
    `10 ^ e`. -/
def decimalText (ds : List Char) (e : Int) : List Char :=
  if -5 ≤ e && e < 0 then
    ['0', '.'] ++ List.replicate (-e - 1).toNat '0' ++ ds
  else if 0 ≤ e && e < 16 then
    let whole := e.toNat + 1
    if ds.length ≤ whole then ds ++ List.replicate (whole - ds.length) '0' ++ ['.', '0']
    else ds.take whole ++ ['.'] ++ ds.drop whole
  else
    let mantissa :=
      match ds with
      | [] => []
      | [d] => [d]
      | d :: more => d :: '.' :: more
    let sign := if e < 0 then '-' else '+'
    mantissa ++ ['e', sign] ++ Nat.toDigits 10 e.natAbs

/-- The text of a finite floating-point number. A zero keeps its sign. -/
def floatText (x : Float) : String :=
  let bits : Nat := x.toBits.toNat
  let fraction : Nat := bits % Nat.pow 2 52
  let biased : Nat := bits / Nat.pow 2 52 % Nat.pow 2 11
  let sign := if bits / Nat.pow 2 63 = 1 then ['-'] else []
  if biased = 0 && fraction = 0 then String.ofList (sign ++ ['0', '.', '0'])
  else
    let m : Nat := if biased = 0 then fraction else Nat.pow 2 52 + fraction
    let q : Int := if biased = 0 then -1074 else (biased : Int) - 1075
    let (digits, k) := (Rounding.ofBinary m q (fraction = 0 && 1 < biased)).shortest
    let (ds, e) := scientific digits k
    String.ofList (sign ++ decimalText ds e)

end VisitorGen.Decimal
