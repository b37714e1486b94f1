set_option autoImplicit false

/-! # Blank characters and trimming

A *blank* is a character with the Unicode property *White_Space*. Grammar lines are padded freely
with blanks, and the last blank of a field parts its type from its name. -/

namespace VisitorGen.Text

/-- Whether a character is white space: the ASCII blanks, the next-line and no-break spaces, and
    the wide, thin and separating spaces. A zero-width space is not one. -/
def isBlank (c : Char) : Bool :=
  let n := c.toNat
  (0x9 ≤ n && n ≤ 0xD) || n == 0x20 || n == 0x85 || n == 0xA0 || n == 0x1680 ||
    (0x2000 ≤ n && n ≤ 0x200A) || n == 0x2028 || n == 0x2029 || n == 0x202F || n == 0x205F ||
    n == 0x3000

/-! ## Trimming -/

/-- A text without the blanks at its start. -/
def trimStart (cs : List Char) : List Char :=
  cs.dropWhile isBlank

/-- A text without the blanks at its end. -/
def trimEnd (cs : List Char) : List Char :=
  (cs.reverse.dropWhile isBlank).reverse

/-- A text without the blanks at either end. -/
def trim (cs : List Char) : List Char :=
  trimEnd (trimStart cs)

/-! ## The last word -/

/-- The text before the last blank and the text after it, or nothing if there is no blank. -/
def splitLastBlank? : List Char → Option (List Char × List Char)
  | [] => none
  | c :: cs =>
    match splitLastBlank? cs with
    | some (front, word) => some (c :: front, word)
    | none => if isBlank c then some ([], cs) else none

/-- No text splits exactly when no character is blank. -/
theorem splitLastBlank?_eq_none_iff (cs : List Char) :
    splitLastBlank? cs = none ↔ ∀ c ∈ cs, isBlank c = false := by
  induction cs with
  | nil => simp [splitLastBlank?]
  | cons c cs ih =>
    rw [splitLastBlank?, List.forall_mem_cons]
    cases h : splitLastBlank? cs with
    | none => simpa using fun _ => ih.mp h
    | some p =>
      have hcs : ¬ ∀ a ∈ cs, isBlank a = false := fun all => by simp [ih.mpr all] at h
      exact iff_of_false nofun fun both => hcs both.2

end VisitorGen.Text
