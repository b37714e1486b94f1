import Mathlib.Tactic.Common
import VisitorGen.Declaration.Brackets
import VisitorGen.Proofs.Text.Padding

set_option autoImplicit false

/-! # Splitting at top-level commas

A text splits exactly at its *top-level* commas, those that the scan meets at depth zero. A text
either has none (`exists_first_topComma`), and is then its only part
(`splitAtCommasFrom_of_no_comma`), or a first one: the text before it is a part, and the scan starts
anew behind it (`splitAtCommas_cons`). Blanks and identifiers mean nothing to the scan. -/

namespace VisitorGen

open Text

/-! ## Top-level commas -/

/-- Whether a text has a comma at depth zero, where the scan `s` has already read what stands
    before the text. -/
def hasTopComma (s : Scan) : List Char → Bool
  | [] => false
  | c :: cs => (c = ',' && s.depth = 0) || hasTopComma (s.step c) cs

theorem hasTopComma_append (s : Scan) (as bs : List Char) :
    hasTopComma s (as ++ bs) = (hasTopComma s as || hasTopComma (s.read as) bs) := by
  induction as generalizing s with
  | nil => rfl
  | cons a as ih => rw [List.cons_append, hasTopComma, ih, hasTopComma, Bool.or_assoc, Scan.read_cons]

/-- A text has a top-level comma exactly when some comma of it follows a text that ends at depth
    zero. -/
theorem hasTopComma_iff (s : Scan) (cs : List Char) :
    hasTopComma s cs = true ↔ ∃ front back, cs = front ++ ',' :: back ∧ (s.read front).depth = 0 := by
  constructor
  · intro h
    induction cs generalizing s with
    | nil => simp [hasTopComma] at h
    | cons c cs ih =>
      simp only [hasTopComma, Bool.or_eq_true, Bool.and_eq_true, decide_eq_true_eq] at h
      rcases h with ⟨rfl, hdepth⟩ | h
      · exact ⟨[], cs, rfl, hdepth⟩
      · obtain ⟨front, back, rfl, hdepth⟩ := ih (s.step c) h
        exact ⟨c :: front, back, rfl, hdepth⟩
  · rintro ⟨front, back, rfl, hdepth⟩
    simp [hasTopComma_append, hasTopComma, hdepth]

theorem no_topComma_iff (s : Scan) (cs : List Char) :
    hasTopComma s cs = false ↔ ∀ front back, cs = front ++ ',' :: back → (s.read front).depth ≠ 0 := by
  rw [← Bool.not_eq_true, hasTopComma_iff]
  simp only [not_exists, not_and]

/-- A text without any comma has none at depth zero. -/
theorem no_topComma_of_notMem (s : Scan) {cs : List Char} (h : ',' ∉ cs) :
    hasTopComma s cs = false := by
  rw [no_topComma_iff]
  rintro front back rfl
  exact absurd h (by simp)

/-! ## Parts -/

theorem splitAtCommasFrom_of_no_comma (s : Scan) {cs : List Char} (h : hasTopComma s cs = false) :
    splitAtCommasFrom s cs = [cs] := by
  induction cs generalizing s with
  | nil => rfl
  | cons c cs ih =>
    rw [hasTopComma, Bool.or_eq_false_iff] at h
    rw [splitAtCommasFrom, ih _ h.2, if_neg (by simp [h.1])]
    rfl

/-- After a top-level comma the scan knows as little as at the start. -/
theorem Scan.step_comma {s : Scan} (h : s.depth = 0) : s.step ',' = .start := by
  simp [Scan.step, Scan.start, isOpening, isClosing, h]

theorem splitAtCommasFrom_cons (s : Scan) {front : List Char} (hfront : hasTopComma s front = false)
    (hdepth : (s.read front).depth = 0) (back : List Char) :
    splitAtCommasFrom s (front ++ ',' :: back) = front :: splitAtCommas back := by
  induction front generalizing s with
  | nil =>
    rw [Scan.read_nil] at hdepth
    rw [List.nil_append, splitAtCommasFrom, if_pos (by simp [hdepth]), Scan.step_comma hdepth,
      splitAtCommas]
  | cons c front ih =>
    rw [hasTopComma, Bool.or_eq_false_iff] at hfront
    rw [List.cons_append, splitAtCommasFrom, if_neg (by simp [hfront.1]), ih _ hfront.2 hdepth]
    rfl

theorem splitAtCommas_of_no_comma {cs : List Char} (h : hasTopComma .start cs = false) :
    splitAtCommas cs = [cs] :=
  splitAtCommasFrom_of_no_comma .start h

theorem splitAtCommas_cons {front : List Char} (hfront : hasTopComma .start front = false)
    (hdepth : (Scan.start.read front).depth = 0) (back : List Char) :
    splitAtCommas (front ++ ',' :: back) = front :: splitAtCommas back :=
  splitAtCommasFrom_cons .start hfront hdepth back

/-- A text either has no top-level comma, or a first one. -/
theorem exists_first_topComma (s : Scan) (cs : List Char) :
    hasTopComma s cs = false ∨
      ∃ front back, cs = front ++ ',' :: back ∧ hasTopComma s front = false ∧
        (s.read front).depth = 0 := by
  induction cs generalizing s with
  | nil => exact Or.inl rfl
  | cons c cs ih =>
    by_cases hc : c = ',' ∧ s.depth = 0
    · obtain ⟨rfl, hdepth⟩ := hc
      exact Or.inr ⟨[], cs, rfl, rfl, hdepth⟩
    · have hhead : (decide (c = ',') && decide (s.depth = 0)) = false := by simpa using hc
      rcases ih (s.step c) with h | ⟨front, back, rfl, hfront, hdepth⟩
      · exact Or.inl (by rw [hasTopComma, hhead, h]; rfl)
      · exact Or.inr ⟨c :: front, back, rfl, by rw [hasTopComma, hhead, hfront]; rfl, hdepth⟩

/-! ## What means nothing to the scan -/

/-- The characters that the scan looks at. -/
def scanMarks : List Char := ['<', '(', '[', '>', ')', ']', ',', '-']

/-- The character means nothing to the scan. -/
def Neutral (c : Char) : Prop := c ∉ scanMarks

/-- A class of characters without a mark is neutral. -/
theorem neutral_of {p : Char → Bool} (hp : scanMarks.any p = false) {c : Char}
    (h : p c = true) : Neutral c := by
  intro hc
  exact absurd h (List.any_eq_false.mp hp c hc)

theorem neutral_of_isBlank {c : Char} (h : isBlank c = true) : Neutral c :=
  neutral_of (by decide) h

theorem neutral_of_isIdentifierPart {c : Char} (h : isIdentifierPart c = true) : Neutral c :=
  neutral_of (by decide) h

theorem Scan.step_neutral (s : Scan) {c : Char} (h : Neutral c) : s.step c = ⟨s.depth, false⟩ := by
  simp only [Neutral, scanMarks, List.mem_cons, List.not_mem_nil, or_false, not_or] at h
  simp [Scan.step, isOpening, isClosing, h]

theorem Scan.depth_read_neutral (s : Scan) {cs : List Char} (h : ∀ c ∈ cs, Neutral c) :
    (s.read cs).depth = s.depth := by
  induction cs generalizing s with
  | nil => rfl
  | cons c cs ih =>
    rw [List.forall_mem_cons] at h
    rw [Scan.read_cons, ih _ h.2, Scan.step_neutral s h.1]

theorem hasTopComma_neutral (s : Scan) {cs : List Char} (h : ∀ c ∈ cs, Neutral c) :
    hasTopComma s cs = false :=
  no_topComma_of_notMem s fun hmem => h ',' hmem (by decide)

theorem Scan.start_read_neutral {cs : List Char} (h : ∀ c ∈ cs, Neutral c) :
    Scan.start.read cs = .start := by
  induction cs with
  | nil => rfl
  | cons c cs ih =>
    rw [List.forall_mem_cons] at h
    rw [Scan.read_cons, Scan.step_neutral _ h.1]
    exact ih h.2

end VisitorGen
