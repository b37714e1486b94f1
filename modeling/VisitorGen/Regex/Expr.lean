import VisitorGen.Text.CharSet
import VisitorGen.Text.Property.Basic

set_option autoImplicit false

/-! # Expressions as sets of texts

What an expression matches: a character of a set, a position that meets a condition, and chains,
choices and repetitions of these. Since only the existence of a match is asked for, it does not
matter which of several matches is preferred, nor what a group holds. -/

namespace VisitorGen.Regex

/-! ## Conditions on positions -/

/-- A condition on whether the characters around a position belong to words. -/
inductive WordEdge where
  | boundary
  | noBoundary
  | start
  | stop
  | startHalf
  | stopHalf
  deriving DecidableEq, Repr

/-- A condition on a position. -/
inductive Look where
  | textStart
  | textEnd
  /-- The start of a line; `crlf` says that a carriage return ends lines too. -/
  | lineStart (crlf : Bool)
  /-- The end of a line. -/
  | lineEnd (crlf : Bool)
  /-- An edge of a word; `ascii` says that only ASCII characters make up words. -/
  | word (ascii : Bool) (edge : WordEdge)
  deriving DecidableEq, Repr

/-- The ASCII characters of words. -/
def asciiWord : Text.CharSet := .ofText "30-39 41-5A 5F 61-7A"

/-- Whether an edge lies between characters, of which it is known whether they belong to words. -/
def WordEdge.holds : WordEdge → Bool → Bool → Bool
  | .boundary, before, after => before != after
  | .noBoundary, before, after => before == after
  | .start, before, after => !before && after
  | .stop, before, after => before && !after
  | .startHalf, before, _ => !before
  | .stopHalf, _, after => !after

/-- Whether a condition holds between two characters, either of which may be missing. A position
    between a carriage return and a line feed is in the middle of a line end. -/
def Look.holds (before after : Option Char) : Look → Bool
  | .textStart => before.isNone
  | .textEnd => after.isNone
  | .lineStart false => before.isNone || before == some '\n'
  | .lineStart true =>
    before.isNone || before == some '\n' || (before == some '\r' && after != some '\n')
  | .lineEnd false => after.isNone || after == some '\n'
  | .lineEnd true =>
    after.isNone || after == some '\r' || (after == some '\n' && before != some '\r')
  | .word ascii edge =>
    let words := if ascii then asciiWord else Text.wordCharacters
    edge.holds (before.any words.contains) (after.any words.contains)

/-! ## Expressions -/

/-- An expression. A repetition without a greatest count has no bound. -/
inductive Expr where
  | empty
  | set (s : Text.CharSet)
  | look (l : Look)
  | seq (first second : Expr)
  | either (left right : Expr)
  | repeated (e : Expr) (least : Nat) (most : Option Nat)

/-- The expression of some that follow each other. -/
def Expr.chain (es : List Expr) : Expr :=
  es.foldr .seq .empty

/-- The expression of a choice between some, of which there is a first one. -/
def Expr.choice (first : Expr) (others : List Expr) : Expr :=
  others.foldl .either first

/-! ## Room -/

/-- The number of bytes that a state of a matcher takes. -/
def stateRoom : Nat := 32

/-- About how many bytes a matcher for an expression takes, which copies a repeated part as often
    as it is counted. -/
def Expr.room : Expr → Nat
  | .empty | .look _ => stateRoom
  | .set s => if s.runs ≤ 1 then stateRoom else stateRoom * (s.runs + 1)
  | .seq first second => first.room + second.room
  | .either left right => stateRoom + left.room + right.room
  | .repeated e least most =>
    match most with
    | none => stateRoom + max 1 least * e.room
    | some most => least * e.room + (most - least) * (stateRoom + e.room)

/-- The greatest number of bytes that a matcher may take. -/
def roomLimit : Nat := 10485760

end VisitorGen.Regex
