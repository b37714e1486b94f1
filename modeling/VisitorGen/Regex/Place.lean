set_option autoImplicit false

/-! # Places in an expression

A fault in an expression is shown at its place: the expression is printed line by line, with marks
under the characters concerned. Lines and columns are counted from one, columns in characters. -/

namespace VisitorGen.Regex

/-- A position before a character, or at the end. -/
structure Position where
  line : Nat
  column : Nat
  deriving DecidableEq, Repr

/-- The first position. -/
def Position.start : Position := ⟨1, 1⟩

/-- The position behind a character. -/
def Position.after (p : Position) (c : Char) : Position :=
  if c = '\n' then ⟨p.line + 1, 1⟩ else ⟨p.line, p.column + 1⟩

/-- The order of positions in an expression. -/
def Position.le (p q : Position) : Bool :=
  p.line < q.line || (p.line == q.line && p.column ≤ q.column)

/-- The characters between two positions. -/
structure Span where
  start : Position
  stop : Position
  deriving DecidableEq, Repr

/-- The empty span at a position. -/
def Span.at (p : Position) : Span := ⟨p, p⟩

/-- Whether a span ends on the line where it starts. -/
def Span.isOneLine (s : Span) : Bool :=
  s.start.line == s.stop.line

/-- The order of spans: by their starts, then by their ends. -/
def Span.le (s t : Span) : Bool :=
  if s.start = t.start then s.stop.le t.stop else s.start.le t.start

end VisitorGen.Regex
