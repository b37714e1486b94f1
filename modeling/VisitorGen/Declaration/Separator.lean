import VisitorGen.Text.Utf8

set_option autoImplicit false

/-! # The separator of a grammar line

The first *lone* colon of a line, one with no colon beside it, parts the variant's name from its
fields: a double colon is a path inside a type. The position of the separator is a byte offset,
found in the UTF-8 form of the line; `splitLoneColon?` says the same on characters. -/

namespace VisitorGen

/-- The offset of the first lone colon in a byte sequence that follows the byte `before`. -/
def loneColonAfter? (before : Option UInt8) : List UInt8 → Option Nat
  | [] => none
  | b :: bs =>
    if b = 0x3A && before != some 0x3A && bs.head? != some 0x3A then some 0
    else (loneColonAfter? (some b) bs).map (· + 1)

/-- The byte offset of the separator of a line. -/
def separatorOffset? (line : List Char) : Option Nat :=
  loneColonAfter? none (Text.utf8 line)

/-- The texts before and after the first lone colon of a text that follows the character
    `before`. -/
def splitLoneColon? (before : Option Char) : List Char → Option (List Char × List Char)
  | [] => none
  | c :: cs =>
    if c = ':' && before != some ':' && cs.head? != some ':' then some ([], cs)
    else (splitLoneColon? (some c) cs).map fun (front, back) => (c :: front, back)

/-- Nothing but the colon itself is lost when a text is split. -/
theorem eq_of_splitLoneColon? {before : Option Char} {cs front back : List Char}
    (h : splitLoneColon? before cs = some (front, back)) : cs = front ++ ':' :: back := by
  induction cs generalizing before front with
  | nil => simp [splitLoneColon?] at h
  | cons c cs ih =>
    rw [splitLoneColon?] at h
    split at h
    · rename_i hc
      simp only [Bool.and_eq_true, decide_eq_true_eq] at hc
      obtain ⟨rfl, rfl⟩ : [] = front ∧ cs = back := by simpa using h
      rw [hc.1.1, List.nil_append]
    · obtain ⟨⟨f, b⟩, hsplit, heq⟩ := Option.map_eq_some_iff.mp h
      obtain ⟨rfl, rfl⟩ : c :: f = front ∧ b = back := by simpa using heq
      rw [ih hsplit, List.cons_append]

end VisitorGen
