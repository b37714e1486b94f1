import VisitorGen.Regex.Expr

set_option autoImplicit false

/-! # Searching a text

Whether an expression matches somewhere in a text. A set of positions in the text is a list of truth
values, one for each position from the start to the end. An expression leads from the positions
where a match may begin to those where it may end, all at once, so nothing is ever tried twice. -/

namespace VisitorGen.Regex

/-- The characters around each position of a text that follows the character `before`. -/
def surroundings (before : Option Char) : List Char → List (Option Char × Option Char)
  | [] => [(before, none)]
  | c :: cs => (before, some c) :: surroundings (some c) cs

/-- An expression on a given text: for each set, which characters of the text it holds, and for each
    condition, at which positions it holds. -/
inductive Placed where
  | empty
  | step (held : List Bool)
  | gate (met : List Bool)
  | seq (first second : Placed)
  | either (left right : Placed)
  | repeated (p : Placed) (least : Nat) (most : Option Nat)
  deriving DecidableEq, Repr

/-- Put an expression on a text. -/
def Expr.place (text : List Char) : Expr → Placed
  | .empty => .empty
  | .set s => .step (text.map s.contains)
  | .look l => .gate ((surroundings none text).map fun (before, after) => l.holds before after)
  | .seq first second => .seq (first.place text) (second.place text)
  | .either left right => .either (left.place text) (right.place text)
  | .repeated e least most => .repeated (e.place text) least most

/-- A function applied a number of times, as long as it changes something. -/
def settle (f : List Bool → List Bool) : Nat → List Bool → List Bool
  | 0, xs => xs
  | n + 1, xs =>
    let ys := f xs
    if ys = xs then xs else settle f n ys

/-- The positions of either set. -/
def joined (xs ys : List Bool) : List Bool :=
  List.zipWith (· || ·) xs ys

/-- The positions where a match may end that begins at one of some positions. A count greater than
    the number of positions is as good as that number, because a match that is longer stands still
    somewhere. -/
def Placed.reach : Placed → List Bool → List Bool
  | .empty, starts => starts
  | .step held, starts => false :: List.zipWith (· && ·) starts held
  | .gate met, starts => List.zipWith (· && ·) starts met
  | .seq first second, starts => second.reach (first.reach starts)
  | .either left right, starts => joined (left.reach starts) (right.reach starts)
  | .repeated p least most, starts =>
    let more := (most.map (· - least)).getD starts.length
    let atLeast := settle p.reach (min least starts.length) starts
    settle (fun xs => joined xs (p.reach xs)) (min more starts.length) atLeast

/-- Whether an expression matches somewhere in a text. -/
def Expr.matchesIn (e : Expr) (text : List Char) : Bool :=
  ((e.place text).reach (List.replicate (text.length + 1) true)).any (·)

end VisitorGen.Regex
