import VisitorGen.Text.CaseTable

set_option autoImplicit false

/-! # Upper and lower case

The case of a character is a Unicode property; in ASCII it is that of the Latin letters. Lower
case is the full mapping, in which one character may become two, and a capital sigma at the end of
a word becomes the final sigma. -/

namespace VisitorGen.Text

/-- Whether a character has the derived property *Uppercase*. -/
def isUpper (c : Char) : Bool :=
  if c.toNat < 0x80 then c.isUpper else inRanges uppercaseRanges c

/-- Whether a character has the derived property *Lowercase*. -/
def isLower (c : Char) : Bool :=
  if c.toNat < 0x80 then c.isLower else inRanges lowercaseRanges c

/-- Whether a character is upper case, lower case or title case. -/
def isCased (c : Char) : Bool :=
  isUpper c || isLower c || inRanges titlecaseRanges c

/-- Whether a character is skipped in the search for the cased letters of a word. -/
def isCaseIgnorable (c : Char) : Bool :=
  inRanges caseIgnorableRanges c

/-- The lower-case form of a character: one character, save for the dotted capital `I`. -/
def lower (c : Char) : List Char :=
  if c.toNat < 0x80 then [c.toLower]
  else if c.toNat = 0x130 then ['i', Char.ofNat 0x307]
  else [shiftBy lowercaseShifts c]

/-! ## The case of ASCII -/

theorem isUpper_of_lt {c : Char} (h : c.toNat < 0x80) : isUpper c = c.isUpper := by
  simp [isUpper, h]

theorem isLower_of_lt {c : Char} (h : c.toNat < 0x80) : isLower c = c.isLower := by
  simp [isLower, h]

theorem lower_of_lt {c : Char} (h : c.toNat < 0x80) : lower c = [c.toLower] := by
  simp [lower, h]

/-! ## Lower-case text -/

/-- Whether the first character that is not ignorable is cased. -/
def startsCased (cs : List Char) : Bool :=
  match cs.dropWhile isCaseIgnorable with
  | [] => false
  | c :: _ => isCased c

/-- The lower-case form of a text that follows `before`, given in reverse. A capital sigma is
    final when a cased letter precedes it and none follows. -/
def lowerAfter (before : List Char) : List Char → List Char
  | [] => []
  | c :: cs =>
    let image :=
      if c = 'Σ' then [if startsCased before && !startsCased cs then 'ς' else 'σ'] else lower c
    image ++ lowerAfter (c :: before) cs

/-- The lower-case form of a text. -/
def lowerText (cs : List Char) : List Char :=
  lowerAfter [] cs

end VisitorGen.Text
