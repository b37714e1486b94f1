import Mathlib.Data.List.Basic
import VisitorGen.Proofs.Text.Padding

set_option autoImplicit false

/-! # Delimiters

A delimiter tells where a text ends if the text does not have it: up to its first occurrence
(`append_cons_inj`) or from its last one (`append_cons_inj_right`) a joined text can be taken apart
again. Identifiers have none of the characters that a template puts around them, and so end at any
of these (`identifier_append_inj`). -/

namespace VisitorGen.Text

/-! ## Characters that a text does not have -/

theorem isIdentifierPart_of_mem {cs : List Char} (h : isIdentifier cs = true) :
    ∀ c ∈ cs, isIdentifierPart c = true :=
  List.all_eq_true.mp (all_isIdentifierPart h)

theorem isIdentifier_append {front back : List Char} (hfront : isIdentifier front = true)
    (hback : ∀ c ∈ back, isIdentifierPart c = true) : isIdentifier (front ++ back) = true := by
  cases front with
  | nil => exact absurd hfront (by simp [isIdentifier])
  | cons c cs =>
    simp only [isIdentifier, Bool.and_eq_true] at hfront
    rw [List.cons_append, isIdentifier, List.all_append, hfront.1, hfront.2,
      List.all_eq_true.mpr hback]
    rfl

/-- A text of identifier characters has no other ones. -/
theorem notMem_of_isIdentifierPart {c : Char} (hc : isIdentifierPart c = false) {cs : List Char}
    (h : ∀ d ∈ cs, isIdentifierPart d = true) : c ∉ cs :=
  fun hmem => absurd (h c hmem) (by simp [hc])

/-- A joined text has only the characters of its parts and of what joins them. -/
theorem notMem_intercalate {c : Char} {sep : String} (hsep : c ∉ sep.toList)
    {parts : List String} (hparts : ∀ part ∈ parts, c ∉ part.toList) :
    c ∉ (sep.intercalate parts).toList := by
  induction parts with
  | nil => simp
  | cons part parts ih =>
    rw [List.forall_mem_cons] at hparts
    have htail := ih hparts.2
    cases parts with
    | nil => simpa using hparts.1
    | cons next parts =>
      rw [String.intercalate_cons_cons, String.toList_append, String.toList_append,
        List.mem_append, List.mem_append, not_or, not_or]
      exact ⟨⟨hparts.1, hsep⟩, htail⟩

/-! ## The ends of delimited texts -/

/-- A text ends at the first occurrence of a character that it does not have. -/
theorem append_cons_inj {x : Char} {as bs r s : List Char} (ha : x ∉ as) (hb : x ∉ bs) :
    as ++ x :: r = bs ++ x :: s ↔ as = bs ∧ r = s := by
  constructor
  · intro h
    induction as generalizing bs with
    | nil =>
      cases bs with
      | nil => exact ⟨rfl, by simpa using h⟩
      | cons b bs =>
        rw [List.nil_append, List.cons_append, List.cons.injEq] at h
        exact absurd h.1 (List.ne_of_not_mem_cons hb)
    | cons a as ih =>
      cases bs with
      | nil =>
        rw [List.nil_append, List.cons_append, List.cons.injEq] at h
        exact absurd h.1.symm (List.ne_of_not_mem_cons ha)
      | cons b bs =>
        rw [List.cons_append, List.cons_append, List.cons.injEq] at h
        obtain ⟨hbs, hs⟩ := ih (List.not_mem_of_not_mem_cons ha) (List.not_mem_of_not_mem_cons hb) h.2
        rw [h.1, hbs]
        exact ⟨rfl, hs⟩
  · rintro ⟨rfl, rfl⟩
    rfl

/-- A text starts behind the last occurrence of a character that it does not have. -/
theorem append_cons_inj_right {x : Char} {as bs r s : List Char} (hr : x ∉ r) (hs : x ∉ s) :
    as ++ x :: r = bs ++ x :: s ↔ as = bs ∧ r = s := by
  rw [← List.reverse_inj]
  simp only [List.reverse_append, List.reverse_cons, List.append_assoc, List.singleton_append]
  rw [append_cons_inj (by simpa using hr) (by simpa using hs), List.reverse_inj, List.reverse_inj]
  exact and_comm

/-- Two identifiers with other characters behind them agree if the texts do. -/
theorem identifier_append_inj {as bs r s : List Char} {x y : Char}
    (ha : ∀ c ∈ as, isIdentifierPart c = true) (hb : ∀ c ∈ bs, isIdentifierPart c = true)
    (hx : isIdentifierPart x = false) (hy : isIdentifierPart y = false)
    (h : as ++ x :: r = bs ++ y :: s) : as = bs ∧ x = y ∧ r = s := by
  have htake : ∀ {cs t : List Char} {z : Char}, (∀ c ∈ cs, isIdentifierPart c = true) →
      isIdentifierPart z = false → (cs ++ z :: t).takeWhile isIdentifierPart = cs := by
    intro cs t z hcs hz
    rw [List.takeWhile_append_of_pos hcs, List.takeWhile_cons_of_neg (by simp [hz]),
      List.append_nil]
  have hsame := congrArg (List.takeWhile isIdentifierPart) h
  rw [htake ha hx, htake hb hy] at hsame
  rw [hsame, List.append_cancel_left_eq, List.cons.injEq] at h
  exact ⟨hsame, h⟩

end VisitorGen.Text
