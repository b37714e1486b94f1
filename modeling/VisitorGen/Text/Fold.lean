import VisitorGen.Text.CaseTable
import VisitorGen.Text.CharSet

set_option autoImplicit false

/-! # Characters that differ in case only

Two characters differ in case only if they have the same simple folding. For most this is the
lower-case form; some that look alike or stand in special places fold to another character. -/

namespace VisitorGen.Text

/-- The characters that do not fold to their lower-case forms, with their foldings. -/
def foldExceptions : List (Nat × Nat) :=
  [(0xB5, 0x3BC), (0x17F, 0x73), (0x345, 0x3B9), (0x3C2, 0x3C3), (0x3D0, 0x3B2), (0x3D1, 0x3B8),
   (0x3D5, 0x3C6), (0x3D6, 0x3C0), (0x3F0, 0x3BA), (0x3F1, 0x3C1), (0x3F5, 0x3B5),
   (0x1C80, 0x432), (0x1C81, 0x434), (0x1C82, 0x43E), (0x1C83, 0x441), (0x1C84, 0x442),
   (0x1C85, 0x442), (0x1C86, 0x44A), (0x1C87, 0x463), (0x1C88, 0xA64B), (0x1E9B, 0x1E61),
   (0x1FBE, 0x3B9), (0x1FD3, 0x390), (0x1FE3, 0x3B0), (0xFB06, 0xFB05)]

/-- The simple folding of a character. -/
def fold (c : Char) : Char :=
  match foldExceptions.find? (·.1 = c.toNat) with
  | some (_, image) => Char.ofNat image
  | none => shiftBy lowercaseShifts c

/-- The characters that may fold to a given one. -/
def foldCandidates (image : Char) : List Char :=
  image ::
    (foldExceptions.filterMap fun (n, m) => if m = image.toNat then some (Char.ofNat n) else none) ++
    lowercaseShifts.filterMap fun s =>
      let n := Int.toNat (image.toNat - s.offset)
      if s.range.contains n then some (Char.ofNat n) else none

/-- The characters that differ from a given one in case only, with itself among them. -/
def caseVariants (c : Char) : List Char :=
  c :: (foldCandidates (fold c)).filter (fold · = fold c)

/-- The set with every character that differs from one of it in case only. -/
def CharSet.closeUnderCase (s : CharSet) : CharSet :=
  ⟨fun c => (caseVariants c).any s.contains, 2 * s.runs⟩

/-- The set with both cases of each of its ASCII letters. -/
def CharSet.closeUnderAsciiCase (s : CharSet) : CharSet :=
  ⟨fun c => s.contains c || (c.toNat < 0x80 && (s.contains c.toLower || s.contains c.toUpper)),
    2 * s.runs⟩

end VisitorGen.Text
