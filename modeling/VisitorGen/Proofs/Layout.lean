import Mathlib.Data.List.Basic
import VisitorGen.Generate
import VisitorGen.Proofs.Text.Delimiter

set_option autoImplicit false

/-! # The text of a layout

Each step of a layout writes one *row*: its indented text and a newline. A sheet therefore holds the
rows of its steps, one after the other, and nothing else (`Sheet.toList_text_run`). As long as the
texts of the steps are single lines, the rows can be told apart again: equal layouts start with
equal rows (`layout_cons_inj`), and without their indentation the lines of a layout are the texts of
its steps (`map_trim_splitOn_layout`). -/

namespace VisitorGen

open Text

/-! ## Rows -/

/-- The text of a step, without its indentation. -/
def Step.text : Step → String
  | .line text => text
  | .opening text => text
  | .closing text => text
  | .blank => ""

@[simp] theorem Step.text_line (text : String) : (Step.line text).text = text := rfl

@[simp] theorem Step.text_opening (text : String) : (Step.opening text).text = text := rfl

@[simp] theorem Step.text_closing (text : String) : (Step.closing text).text = text := rfl

@[simp] theorem Step.text_blank : Step.blank.text = "" := rfl

/-- The level at which the text of a step stands, if the step is reached at `level`. -/
def Step.ownLevel (level : Nat) : Step → Nat
  | .line _ => level
  | .opening _ => level
  | .closing _ => level - 1
  | .blank => level

/-- What a step writes before its newline. -/
def Step.row (unit : String) (level : Nat) (step : Step) : List Char :=
  if step.text.isEmpty then []
  else (indentation unit (step.ownLevel level)).toList ++ step.text.toList

/-- The rows of some steps, each with its newline. -/
def layout (unit : String) : Nat → List Step → List Char
  | _, [] => []
  | level, step :: steps => step.row unit level ++ '\n' :: layout unit (step.levelAfter level) steps

/-- The level after some steps. -/
def levelAfterAll (level : Nat) (steps : List Step) : Nat :=
  steps.foldl Step.levelAfter level

theorem layout_append (unit : String) (level : Nat) (as bs : List Step) :
    layout unit level (as ++ bs) = layout unit level as ++ layout unit (levelAfterAll level as) bs := by
  induction as generalizing level with
  | nil => rfl
  | cons step as ih =>
    rw [List.cons_append, layout, ih, layout, List.append_assoc, List.cons_append]
    rfl

theorem Step.toList_textAt (unit : String) (level : Nat) (step : Step) :
    (step.textAt unit level).toList = step.row unit level ++ ['\n'] := by
  have hline : ∀ level' text, (lineText unit level' text).toList =
      (if text.isEmpty then [] else (indentation unit level').toList ++ text.toList) ++ ['\n'] := by
    intro level' text
    rw [lineText]
    split <;> simp
  cases step with
  | line text => exact hline level text
  | opening text => exact hline level text
  | closing text => exact hline (level - 1) text
  | blank => simp [textAt, row, text]

/-- A sheet grows by the rows of its steps. -/
theorem Sheet.toList_text_run (s : Sheet) (steps : List Step) :
    (s.run steps).text.toList = s.text.toList ++ layout s.unit s.level steps := by
  induction steps generalizing s with
  | nil => simp [run, layout]
  | cons step steps ih =>
    calc ((s.apply step).run steps).text.toList
        = (s.text ++ step.textAt s.unit s.level).toList
            ++ layout s.unit (step.levelAfter s.level) steps := ih (s.apply step)
      _ = s.text.toList ++ layout s.unit s.level (step :: steps) := by
        rw [String.toList_append, Step.toList_textAt, layout]
        simp

/-- The source text of a unit is the layout of its steps. -/
theorem Target.toList_source (t : Target) (f : Family) :
    (t.unit f).source.toList = layout t.indentUnit 0 (t.steps f) := by
  rw [unit, Sheet.toList_text_run]
  rfl

theorem Target.allBlank_indentUnit (t : Target) : AllBlank t.indentUnit.toList := by
  cases t with
  | csharp o => exact (by decide : AllBlank "\t".toList)
  | rust o => exact (by decide : AllBlank "    ".toList)

theorem Target.newline_notMem_indentUnit (t : Target) : '\n' ∉ t.indentUnit.toList := by
  cases t with
  | csharp o => exact (by decide : '\n' ∉ "\t".toList)
  | rust o => exact (by decide : '\n' ∉ "    ".toList)

/-! ## Telling rows apart -/

/-- Equal layouts start with equal rows. -/
theorem layout_cons_inj {unit : String} {level level' : Nat} {step step' : Step}
    {steps steps' : List Step} (h : '\n' ∉ step.row unit level) (h' : '\n' ∉ step'.row unit level') :
    layout unit level (step :: steps) = layout unit level' (step' :: steps') ↔
      step.row unit level = step'.row unit level' ∧
        layout unit (step.levelAfter level) steps = layout unit (step'.levelAfter level') steps' := by
  rw [layout, layout]
  exact append_cons_inj h h'

/-- The same steps can be taken off the fronts of equal layouts. -/
theorem layout_append_inj {unit : String} {level : Nat} {front as bs : List Step} :
    layout unit level (front ++ as) = layout unit level (front ++ bs) ↔
      layout unit (levelAfterAll level front) as = layout unit (levelAfterAll level front) bs := by
  rw [layout_append, layout_append, List.append_right_inj]

theorem newline_notMem_indentation {unit : String} (hunit : '\n' ∉ unit.toList) (level : Nat) :
    '\n' ∉ (indentation unit level).toList := by
  induction level with
  | zero => simp [indentation]
  | succ level ih => simp [indentation, hunit, ih]

theorem Step.newline_notMem_row {unit : String} (hunit : '\n' ∉ unit.toList) (level : Nat)
    {step : Step} (h : '\n' ∉ step.text.toList) : '\n' ∉ step.row unit level := by
  rw [row]
  split
  · simp
  · simp [newline_notMem_indentation hunit, h]

/-! ## Lines without their indentation -/

theorem allBlank_indentation {unit : String} (hunit : AllBlank unit.toList) (level : Nat) :
    AllBlank (indentation unit level).toList := by
  induction level with
  | zero => simp [indentation, AllBlank]
  | succ level ih =>
    rw [indentation, String.toList_append]
    exact hunit.append ih

/-- Whether the first character, if there is one, is not blank. -/
def startsSolid : List Char → Bool
  | [] => true
  | c :: _ => !isBlank c

@[simp] theorem startsSolid_cons (c : Char) (cs : List Char) :
    startsSolid (c :: cs) = !isBlank c := rfl

theorem startsSolid_iff {cs : List Char} :
    startsSolid cs = true ↔ ∀ c ∈ cs.head?, isBlank c = false := by
  cases cs with
  | nil => simp [startsSolid]
  | cons c cs => simp

/-- The text is a single line and starts with no blank. -/
def IsRow (text : String) : Prop :=
  '\n' ∉ text.toList ∧ startsSolid text.toList = true

/-- The texts of all steps are rows. -/
def AreRows (steps : List Step) : Prop :=
  ∀ step ∈ steps, IsRow step.text

@[simp] theorem areRows_nil : AreRows [] := by
  simp [AreRows]

@[simp] theorem areRows_cons {step : Step} {steps : List Step} :
    AreRows (step :: steps) ↔ IsRow step.text ∧ AreRows steps :=
  List.forall_mem_cons

@[simp] theorem areRows_append {as bs : List Step} :
    AreRows (as ++ bs) ↔ AreRows as ∧ AreRows bs :=
  List.forall_mem_append

@[simp] theorem areRows_map_line {α : Type} {text : α → String} {xs : List α} :
    AreRows (xs.map fun x => .line (text x)) ↔ ∀ x ∈ xs, IsRow (text x) :=
  List.forall_mem_map

@[simp] theorem areRows_flatMap {α : Type} {piece : α → List Step} {xs : List α} :
    AreRows (xs.flatMap piece) ↔ ∀ x ∈ xs, AreRows (piece x) :=
  List.forall_mem_flatMap

theorem isRow_closing : IsRow (Step.closing "\x7d").text := by
  simp +decide [IsRow]

/-- Equal rows have equal texts, even at different levels. -/
theorem Step.text_eq_of_row {unit : String} (hunit : AllBlank unit.toList) {level level' : Nat}
    {step step' : Step} (hstep : IsRow step.text) (hstep' : IsRow step'.text)
    (h : step.row unit level = step'.row unit level') : step.text = step'.text := by
  have hstart : ∀ {level : Nat} {step : Step}, IsRow step.text →
      trimStart (step.row unit level) = step.text.toList := by
    intro level step hrow
    have hsolid : trimStart step.text.toList = step.text.toList :=
      trimStart_eq_self (startsSolid_iff.mp hrow.2)
    rw [Step.row]
    split
    · next hempty =>
      rw [String.isEmpty_iff.mp hempty]
      rfl
    · rw [trimStart_append (allBlank_indentation hunit _), hsolid]
  rw [← String.toList_inj, ← hstart hstep, ← hstart hstep', h]

end VisitorGen
