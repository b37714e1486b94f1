set_option autoImplicit false

/-! # Bracket depth and top-level commas

A field's type may hold commas between brackets, so the fields of a line are separated by the
commas at bracket depth zero. Round, square and angle brackets count alike; the arrow `->` of a
function type is not a closing bracket, and a closing bracket at depth zero changes nothing. -/

namespace VisitorGen

/-- What the scan of a text knows: the bracket depth, and whether a dash was read just before. -/
structure Scan where
  depth : Nat
  afterDash : Bool
  deriving DecidableEq, Repr

/-- The scan before any text. -/
def Scan.start : Scan := ⟨0, false⟩

/-- Whether a character opens a bracket. -/
def isOpening (c : Char) : Bool :=
  c == '<' || c == '(' || c == '['

/-- Whether a character closes a bracket, unless it ends an arrow. -/
def isClosing (c : Char) : Bool :=
  c == '>' || c == ')' || c == ']'

/-- The scan after one more character. -/
def Scan.step (s : Scan) (c : Char) : Scan where
  depth :=
    if isOpening c then s.depth + 1
    else if c = '>' && s.afterDash then s.depth
    else if isClosing c then s.depth - 1
    else s.depth
  afterDash := c == '-'

/-- The scan after a text. -/
def Scan.read (s : Scan) (cs : List Char) : Scan :=
  cs.foldl Scan.step s

@[simp] theorem Scan.read_nil (s : Scan) : s.read [] = s := rfl

@[simp] theorem Scan.read_cons (s : Scan) (c : Char) (cs : List Char) :
    s.read (c :: cs) = (s.step c).read cs := rfl

theorem Scan.read_append (s : Scan) (as bs : List Char) :
    s.read (as ++ bs) = (s.read as).read bs :=
  List.foldl_append

/-! ## Splitting -/

/-- The parts of a text between its commas at depth zero, where the scan `s` has already read what
    stands before the text. -/
def splitAtCommasFrom (s : Scan) : List Char → List (List Char)
  | [] => [[]]
  | c :: cs =>
    let parts := splitAtCommasFrom (s.step c) cs
    if c = ',' && s.depth = 0 then [] :: parts else parts.modifyHead (c :: ·)

/-- The parts of a text between its commas at depth zero; a text without such a comma is its only
    part. -/
def splitAtCommas (cs : List Char) : List (List Char) :=
  splitAtCommasFrom .start cs

end VisitorGen
