import VisitorGen.Proofs.Layout

set_option autoImplicit false

/-! # Shifting a layout

What some steps write depends on the level at which they start. As long as they close no level that
they have not opened themselves, it depends on it in one way only: at the level `k` they write what
they write at the outermost level, with `k` more indentations in front of each text
(`layout_shift`). Only the outermost level could stand in the way of this, since a step that closes
it stays there; `openLevels` counts the levels and stops at such a step. -/

namespace VisitorGen

/-! ## Opening and closing -/

/-- How many levels a step opens. -/
def Step.opens : Step → Nat
  | .opening _ => 1
  | _ => 0

/-- How many levels a step closes. -/
def Step.closes : Step → Nat
  | .closing _ => 1
  | _ => 0

/-- How many levels some steps open. -/
def openings (steps : List Step) : Nat :=
  (steps.map Step.opens).sum

/-- How many levels some steps close. -/
def closings (steps : List Step) : Nat :=
  (steps.map Step.closes).sum

@[simp] theorem openings_nil : openings [] = 0 := rfl

@[simp] theorem closings_nil : closings [] = 0 := rfl

@[simp] theorem openings_cons (step : Step) (steps : List Step) :
    openings (step :: steps) = step.opens + openings steps :=
  List.sum_cons

@[simp] theorem closings_cons (step : Step) (steps : List Step) :
    closings (step :: steps) = step.closes + closings steps :=
  List.sum_cons

/-- Steps that close no level but those that they have opened: nowhere in them have more levels
    been closed than opened. -/
def ClosesOwn (steps : List Step) : Prop :=
  ∀ front, front <+: steps → closings front ≤ openings front

/-! ## Open levels -/

/-- The number of open levels after a step. It is none if there is no open level to close. -/
def Step.openAfter (d : Nat) : Step → Option Nat
  | .line _ => some d
  | .opening _ => some (d + 1)
  | .closing _ => if d = 0 then none else some (d - 1)
  | .blank => some d

/-- The number of open levels after some steps, if `d` are open before them. It is none if one of
    the steps has no open level to close. -/
def openLevels (d : Nat) (steps : List Step) : Option Nat :=
  steps.foldlM Step.openAfter d

@[simp] theorem openLevels_nil (d : Nat) : openLevels d [] = some d := rfl

@[simp] theorem openLevels_cons (d : Nat) (step : Step) (steps : List Step) :
    openLevels d (step :: steps) = (step.openAfter d).bind fun e => openLevels e steps := rfl

@[simp] theorem openLevels_append (d : Nat) (as bs : List Step) :
    openLevels d (as ++ bs) = (openLevels d as).bind fun e => openLevels e bs :=
  List.foldlM_append

@[simp] theorem openLevels_map_line {α : Type} (d : Nat) (text : α → String) (xs : List α) :
    openLevels d (xs.map fun x => .line (text x)) = some d := by
  induction xs with
  | nil => rfl
  | cons x xs ih => simpa [Step.openAfter] using ih

theorem Step.openAfter_eq_some_iff {d e : Nat} {step : Step} :
    step.openAfter d = some e ↔ d + step.opens = e + step.closes := by
  cases step with
  | line text => simp [openAfter, opens, closes]
  | opening text => simp [openAfter, opens, closes]
  | closing text =>
    simp only [openAfter, opens, closes]
    split
    · simp only [reduceCtorEq, false_iff]
      omega
    · simp only [Option.some_inj]
      omega
  | blank => simp [openAfter, opens, closes]

theorem count_of_openLevels {d e : Nat} {steps : List Step} (h : openLevels d steps = some e) :
    d + openings steps = e + closings steps := by
  induction steps generalizing d with
  | nil => simpa using h
  | cons step steps ih =>
    obtain ⟨m, hstep, hrest⟩ := Option.bind_eq_some_iff.mp h
    have hcount := Step.openAfter_eq_some_iff.mp hstep
    have hcounts := ih hrest
    rw [openings_cons, closings_cons]
    omega

/-- Where the counts leave a level to close at every place, each closing step finds one. -/
theorem exists_openLevels {d : Nat} {steps : List Step}
    (h : ∀ front, front <+: steps → closings front ≤ d + openings front) :
    ∃ e, openLevels d steps = some e := by
  induction steps generalizing d with
  | nil => exact ⟨d, rfl⟩
  | cons step steps ih =>
    obtain ⟨m, hm⟩ : ∃ m, d + step.opens = m + step.closes := by
      have hfirst := h [step] (by simp)
      simp only [openings_cons, closings_cons, openings_nil, closings_nil] at hfirst
      exact ⟨d + step.opens - step.closes, by omega⟩
    have hrest : ∀ front, front <+: steps → closings front ≤ m + openings front := by
      intro front hfront
      have hlonger := h (step :: front) (List.cons_prefix_cons.mpr ⟨rfl, hfront⟩)
      rw [openings_cons, closings_cons] at hlonger
      omega
    obtain ⟨e, he⟩ := ih hrest
    exact ⟨e, by rw [openLevels_cons, Step.openAfter_eq_some_iff.mpr hm, Option.bind_some, he]⟩

/-- Steps that close their own levels are those that can be followed from the outermost level. -/
theorem closesOwn_iff {steps : List Step} : ClosesOwn steps ↔ ∃ e, openLevels 0 steps = some e := by
  constructor
  · intro h
    refine exists_openLevels fun front hfront => ?_
    rw [Nat.zero_add]
    exact h front hfront
  · rintro ⟨e, he⟩ front ⟨back, rfl⟩
    rw [openLevels_append] at he
    obtain ⟨m, hm, -⟩ := Option.bind_eq_some_iff.mp he
    have hcount := count_of_openLevels hm
    omega

/-! ## Further in -/

theorem indentation_add (unit : String) (m n : Nat) :
    indentation unit (m + n) = indentation unit m ++ indentation unit n := by
  induction m with
  | zero => simp [indentation]
  | succ m ih => rw [Nat.succ_add, indentation, ih, indentation, String.append_assoc]

/-- A text behind `pad`; the empty text stays empty. -/
def padText (pad text : String) : String :=
  if text.isEmpty then text else pad ++ text

/-- A step with its text behind `pad`. -/
def Step.padded (pad : String) : Step → Step
  | .line text => .line (padText pad text)
  | .opening text => .opening (padText pad text)
  | .closing text => .closing (padText pad text)
  | .blank => .blank

theorem isEmpty_padText (pad text : String) : (padText pad text).isEmpty = text.isEmpty := by
  rw [Bool.eq_iff_iff, String.isEmpty_iff, String.isEmpty_iff]
  by_cases hempty : text = "" <;> simp [padText, hempty]

theorem Step.text_padded (pad : String) (step : Step) :
    (step.padded pad).text = padText pad step.text := by
  cases step <;> rfl

theorem Step.levelAfter_padded (pad : String) (level : Nat) (step : Step) :
    (step.padded pad).levelAfter level = step.levelAfter level := by
  cases step <;> rfl

theorem Step.ownLevel_padded (pad : String) (level : Nat) (step : Step) :
    (step.padded pad).ownLevel level = step.ownLevel level := by
  cases step <;> rfl

/-- Where a level is open to be closed, a step does the same `k` levels further in. -/
theorem Step.shift_of_openAfter {d e : Nat} {step : Step} (h : step.openAfter d = some e)
    (k : Nat) :
    step.levelAfter d = e ∧ step.levelAfter (k + d) = k + e ∧
      step.ownLevel (k + d) = k + step.ownLevel d := by
  have hcount := openAfter_eq_some_iff.mp h
  cases step <;> simp only [opens, closes, levelAfter, ownLevel, and_true] at hcount ⊢ <;> omega

/-- The row of a step `k` levels further in is its row with `k` indentations in front of the
    text. -/
theorem Step.row_shift (unit : String) {d k : Nat} {step : Step}
    (h : step.ownLevel (k + d) = k + step.ownLevel d) :
    step.row unit (k + d) = (step.padded (indentation unit k)).row unit d := by
  rw [row, row, text_padded, ownLevel_padded, isEmpty_padText, h]
  split
  · rfl
  · next hempty =>
    rw [padText, if_neg hempty, Nat.add_comm, indentation_add]
    simp

theorem levelAfterAll_of_openLevels {d e : Nat} {steps : List Step}
    (h : openLevels d steps = some e) (k : Nat) : levelAfterAll (k + d) steps = k + e := by
  induction steps generalizing d with
  | nil =>
    obtain rfl : d = e := by simpa using h
    rfl
  | cons step steps ih =>
    obtain ⟨m, hstep, hrest⟩ := Option.bind_eq_some_iff.mp h
    obtain ⟨-, hlevel, -⟩ := Step.shift_of_openAfter hstep k
    calc levelAfterAll (k + d) (step :: steps)
        = levelAfterAll (step.levelAfter (k + d)) steps := rfl
      _ = k + e := by rw [hlevel, ih hrest]

/-- Steps that find every level open that they close write the same further in. -/
theorem layout_shift (unit : String) {d e : Nat} {steps : List Step}
    (h : openLevels d steps = some e) (k : Nat) :
    layout unit (k + d) steps = layout unit d (steps.map (Step.padded (indentation unit k))) := by
  induction steps generalizing d with
  | nil => rfl
  | cons step steps ih =>
    obtain ⟨m, hstep, hrest⟩ := Option.bind_eq_some_iff.mp h
    obtain ⟨hfirst, hlevel, hown⟩ := Step.shift_of_openAfter hstep k
    rw [List.map_cons, layout, layout, Step.row_shift unit hown, Step.levelAfter_padded, hfirst,
      hlevel, ih hrest]

/-! ## Sheets -/

/-- A sheet grows by a text that depends on its level, its unit and the steps alone. -/
theorem Sheet.text_run (s : Sheet) (steps : List Step) :
    (s.run steps).text = s.text ++ String.ofList (layout s.unit s.level steps) := by
  rw [← String.toList_inj, toList_text_run, String.toList_append, String.toList_ofList]

theorem Sheet.level_run (s : Sheet) (steps : List Step) :
    (s.run steps).level = levelAfterAll s.level steps := by
  induction steps generalizing s with
  | nil => rfl
  | cons step steps ih => exact ih (s.apply step)

end VisitorGen
