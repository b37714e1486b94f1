import VisitorGen.Text.CodeRange

set_option autoImplicit false

/-! # Sets of characters

A set of characters is given by membership. It also knows by how many runs of code points it is
described, which says how much room it takes in a matcher. Runs can be written as text: `41-5A` for
the code points from one to another, `100~12E` for every second one, `AA` for one alone. -/

namespace VisitorGen.Text

/-- A set of characters. -/
structure CharSet where
  contains : Char → Bool
  /-- The number of runs that describe the set, at most. -/
  runs : Nat

namespace CharSet

/-- The set without a character. -/
def empty : CharSet := ⟨fun _ => false, 0⟩

/-- The set of one character. -/
def single (c : Char) : CharSet := ⟨(· == c), 1⟩

/-- The characters between two, both included. -/
def between (first last : Char) : CharSet := ⟨fun c => first ≤ c && c ≤ last, 1⟩

/-- The characters on some runs. -/
def ofRanges (rs : List CodeRange) : CharSet := ⟨inRanges rs, rs.length⟩

/-- The characters that either set holds. -/
def union (s t : CharSet) : CharSet := ⟨fun c => s.contains c || t.contains c, s.runs + t.runs⟩

/-- The characters that both sets hold. -/
def inter (s t : CharSet) : CharSet := ⟨fun c => s.contains c && t.contains c, s.runs + t.runs⟩

/-- The characters that the first set holds and the second does not. -/
def diff (s t : CharSet) : CharSet := ⟨fun c => s.contains c && !t.contains c, s.runs + t.runs⟩

/-- The characters that exactly one of the sets holds. -/
def symmDiff (s t : CharSet) : CharSet :=
  ⟨fun c => s.contains c != t.contains c, s.runs + t.runs⟩

/-- The characters that a set does not hold. -/
def compl (s : CharSet) : CharSet := ⟨fun c => !s.contains c, s.runs + 1⟩

/-- The characters that any of some sets holds. -/
def unions (ss : List CharSet) : CharSet :=
  ss.foldr union empty

/-- The set without its characters that are not ASCII. -/
def ascii (s : CharSet) : CharSet := ⟨fun c => c.toNat < 0x80 && s.contains c, s.runs⟩

end CharSet

/-! ## Runs as text -/

/-- The value of a hexadecimal number. -/
def hexNumber (cs : List Char) : Nat :=
  cs.foldl (fun n c => 16 * n + if c.isDigit then c.toNat - '0'.toNat else c.toNat - 'A'.toNat + 10) 0

/-- The run that a text describes. -/
def CodeRange.ofText (text : List Char) : CodeRange :=
  let first := text.takeWhile Char.isAlphanum
  match text.drop first.length with
  | [] => ⟨hexNumber first, hexNumber first, 1⟩
  | separator :: last => ⟨hexNumber first, hexNumber last, if separator = '~' then 2 else 1⟩

/-- The words of a text, which stand between spaces and line ends. -/
def wordsOf (text : String) : List (List Char) :=
  (text.toList.splitOnP fun c => c = ' ' || c = '\n').filter (· ≠ [])

/-- The set that a list of runs describes. -/
def CharSet.ofText (text : String) : CharSet :=
  .ofRanges ((wordsOf text).map CodeRange.ofText)

end VisitorGen.Text
