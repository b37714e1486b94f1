import VisitorGen.Proofs.Layout

set_option autoImplicit false

/-! # Braces and levels

A layout keeps two accounts of nesting: the level, which its steps change, and the braces in the
texts of the steps. They agree in a *nested* list of steps, where a line has as many closing as
opening braces, an opening step has one more, a closing step is a closing brace, and the level of a
closing step is never the outermost one. Before every row of such a layout there are as many open
braces as its level says (`Nested.braceDepth_layout`), so the text is indented by its braces
(`Nested.indentedByBraces`). -/

namespace VisitorGen

open Text

/-! ## Open braces -/

/-- How many braces are open after a text, if `d` are open before it. It is none if the text closes
    a brace that is not open. -/
def braceDepth (d : Nat) : List Char → Option Nat
  | [] => some d
  | c :: cs =>
    if c = '\x7b' then braceDepth (d + 1) cs
    else if c = '\x7d' then
      if d = 0 then none else braceDepth (d - 1) cs
    else braceDepth d cs

@[simp] theorem braceDepth_nil (d : Nat) : braceDepth d [] = some d := rfl

@[simp] theorem braceDepth_opening (d : Nat) (cs : List Char) :
    braceDepth d ('\x7b' :: cs) = braceDepth (d + 1) cs := rfl

@[simp] theorem braceDepth_closing_zero (cs : List Char) : braceDepth 0 ('\x7d' :: cs) = none := rfl

@[simp] theorem braceDepth_closing_succ (d : Nat) (cs : List Char) :
    braceDepth (d + 1) ('\x7d' :: cs) = braceDepth d cs := rfl

@[simp] theorem braceDepth_of_ne (d : Nat) {c : Char} (hopening : c ≠ '\x7b') (hclosing : c ≠ '\x7d')
    (cs : List Char) : braceDepth d (c :: cs) = braceDepth d cs := by
  rw [braceDepth, if_neg hopening, if_neg hclosing]

theorem braceDepth_append (d : Nat) (as bs : List Char) :
    braceDepth d (as ++ bs) = (braceDepth d as).bind fun e => braceDepth e bs := by
  induction as generalizing d with
  | nil => rfl
  | cons c as ih =>
    rw [List.cons_append, braceDepth, braceDepth]
    split
    · exact ih (d + 1)
    · split
      · split
        · rfl
        · exact ih (d - 1)
      · exact ih d

/-- There are no braces in the text. -/
def NoBraces (cs : List Char) : Prop := '\x7b' ∉ cs ∧ '\x7d' ∉ cs

theorem NoBraces.braceDepth_append {cs : List Char} (h : NoBraces cs) (d : Nat) (rest : List Char) :
    braceDepth d (cs ++ rest) = braceDepth d rest := by
  induction cs with
  | nil => rfl
  | cons c cs ih =>
    obtain ⟨hopening, hclosing⟩ := h
    rw [List.cons_append, braceDepth_of_ne d (List.ne_of_not_mem_cons hopening).symm
      (List.ne_of_not_mem_cons hclosing).symm]
    exact ih ⟨List.not_mem_of_not_mem_cons hopening, List.not_mem_of_not_mem_cons hclosing⟩

theorem NoBraces.braceDepth {cs : List Char} (h : NoBraces cs) (d : Nat) :
    VisitorGen.braceDepth d cs = some d := by
  simpa using h.braceDepth_append d []

/-- The depth counts what is open. -/
theorem count_of_braceDepth {d e : Nat} {cs : List Char} (h : braceDepth d cs = some e) :
    d + cs.count '\x7b' = e + cs.count '\x7d' := by
  induction cs generalizing d with
  | nil => simpa using h
  | cons c cs ih =>
    rw [braceDepth] at h
    split at h
    · next hc =>
      have := ih h
      simp [hc]
      omega
    · split at h
      · next hc =>
        split at h
        · exact absurd h (by simp)
        · have := ih h
          simp [hc]
          omega
      · next hopening hclosing =>
        have := ih h
        simp [hopening, hclosing]
        omega

/-- Nowhere in a text that has a depth there are more closing than opening braces. -/
theorem count_le_of_braceDepth {e : Nat} {cs front : List Char} (h : braceDepth 0 cs = some e)
    (hfront : front <+: cs) : front.count '\x7d' ≤ front.count '\x7b' := by
  obtain ⟨back, rfl⟩ := hfront
  rw [braceDepth_append] at h
  obtain ⟨k, hk, -⟩ := Option.bind_eq_some_iff.mp h
  have := count_of_braceDepth hk
  omega

/-! ## Nested steps -/

/-- The text opens `n` braces that it does not close, and closes no others than its own. -/
def Opens (n : Nat) (text : String) : Prop :=
  ∀ d, braceDepth d text.toList = some (d + n)

/-- The braces of the steps agree with the levels, from the first level to the last one. -/
inductive Nested : Nat → List Step → Nat → Prop
  | nil (l : Nat) : Nested l [] l
  | line {l m : Nat} {text : String} {steps : List Step} :
    Opens 0 text → Nested l steps m → Nested l (.line text :: steps) m
  | opening {l m : Nat} {text : String} {steps : List Step} :
    Opens 1 text → Nested (l + 1) steps m → Nested l (.opening text :: steps) m
  | closing {l m : Nat} {steps : List Step} :
    Nested l steps m → Nested (l + 1) (.closing "\x7d" :: steps) m
  | blank {l m : Nat} {steps : List Step} : Nested l steps m → Nested l (.blank :: steps) m

namespace Nested

theorem append {l m n : Nat} {as bs : List Step} (h : Nested l as m) (h' : Nested m bs n) :
    Nested l (as ++ bs) n := by
  induction h with
  | nil l => exact h'
  | line htext _ ih => exact .line htext (ih h')
  | opening htext _ ih => exact .opening htext (ih h')
  | closing _ ih => exact .closing (ih h')
  | blank _ ih => exact .blank (ih h')

theorem map_line {α : Type} {text : α → String} {xs : List α} (h : ∀ x ∈ xs, Opens 0 (text x))
    (l : Nat) : Nested l (xs.map fun x => .line (text x)) l := by
  induction xs with
  | nil => exact .nil l
  | cons x xs ih =>
    rw [List.forall_mem_cons] at h
    exact .line h.1 (ih h.2)

theorem flatMap {α : Type} {piece : α → List Step} {xs : List α} {l : Nat}
    (h : ∀ x ∈ xs, Nested l (piece x) l) : Nested l (xs.flatMap piece) l := by
  induction xs with
  | nil => exact .nil l
  | cons x xs ih =>
    rw [List.forall_mem_cons] at h
    exact h.1.append (ih h.2)

/-- The steps before any place lead to a level from which the others are nested. -/
theorem of_append {l n : Nat} {as bs : List Step} (h : Nested l (as ++ bs) n) :
    ∃ m, Nested l as m ∧ Nested m bs n := by
  induction as generalizing l with
  | nil => exact ⟨l, .nil l, h⟩
  | cons step as ih =>
    cases h with
    | line htext hrest =>
      obtain ⟨m, hm, hback⟩ := ih hrest
      exact ⟨m, .line htext hm, hback⟩
    | opening htext hrest =>
      obtain ⟨m, hm, hback⟩ := ih hrest
      exact ⟨m, .opening htext hm, hback⟩
    | closing hrest =>
      obtain ⟨m, hm, hback⟩ := ih hrest
      exact ⟨m, .closing hm, hback⟩
    | blank hrest =>
      obtain ⟨m, hm, hback⟩ := ih hrest
      exact ⟨m, .blank hm, hback⟩

theorem levelAfterAll_eq {l m : Nat} {steps : List Step} (h : Nested l steps m) :
    levelAfterAll l steps = m := by
  induction h with
  | nil l => rfl
  | line _ _ ih => exact ih
  | opening _ _ ih => exact ih
  | closing _ ih => exact ih
  | blank _ ih => exact ih

end Nested

/-! ## The text of nested steps -/

theorem toList_indentation (unit : String) (level : Nat) :
    (indentation unit level).toList = (List.replicate level unit.toList).flatten := by
  induction level with
  | zero => simp [indentation]
  | succ level ih => simp [indentation, ih, List.replicate_succ]

theorem noBraces_indentation {unit : String} (hunit : NoBraces unit.toList) (level : Nat) :
    NoBraces (indentation unit level).toList := by
  induction level with
  | zero => simp [indentation, NoBraces]
  | succ level ih => simp [indentation, hunit.1, hunit.2, ih.1, ih.2, NoBraces]

/-- A row has the braces of its text. -/
theorem Step.braceDepth_row {unit : String} (hunit : NoBraces unit.toList) (level d : Nat)
    (step : Step) : braceDepth d (step.row unit level) = braceDepth d step.text.toList := by
  rw [row]
  split
  · next hempty =>
    rw [String.isEmpty_iff.mp hempty]
    rfl
  · exact (noBraces_indentation hunit _).braceDepth_append d _

theorem braceDepth_layout_cons {unit : String} (hunit : NoBraces unit.toList) (level d : Nat)
    (step : Step) (steps : List Step) :
    braceDepth d (layout unit level (step :: steps)) =
      (braceDepth d step.text.toList).bind fun e =>
        braceDepth e (layout unit (step.levelAfter level) steps) := by
  rw [layout, braceDepth_append, Step.braceDepth_row hunit]
  simp only [braceDepth_of_ne _ (by decide : '\n' ≠ '\x7b') (by decide : '\n' ≠ '\x7d')]

/-- The open braces after a layout of nested steps are the level after it. -/
theorem Nested.braceDepth_layout {unit : String} (hunit : NoBraces unit.toList) {l m : Nat}
    {steps : List Step} (h : Nested l steps m) : braceDepth l (layout unit l steps) = some m := by
  induction h with
  | nil l => rfl
  | @line l m text steps htext _ ih =>
    rw [braceDepth_layout_cons hunit, Step.text_line, htext l]
    exact ih
  | @opening l m text steps htext _ ih =>
    rw [braceDepth_layout_cons hunit, Step.text_opening, htext l]
    exact ih
  | @closing l m steps _ ih =>
    have hbrace : braceDepth (l + 1) "\x7d".toList = some l := by simp
    rw [braceDepth_layout_cons hunit, Step.text_closing, hbrace]
    exact ih
  | @blank l m steps _ ih =>
    rw [braceDepth_layout_cons hunit]
    exact ih

/-! ## Lines of a text -/

/-- The line stands between `before` and `after` in the text. -/
structure IsLine (text before line after : List Char) : Prop where
  eq : text = before ++ line ++ after
  start : before = [] ∨ before.getLast? = some '\n'
  stop : after = [] ∨ after.head? = some '\n'
  newline : '\n' ∉ line

/-- A line of a text is its first row, or a line of what follows that row. -/
theorem IsLine.first_or_later {row rest before line after : List Char} (hrow : '\n' ∉ row)
    (h : IsLine (row ++ '\n' :: rest) before line after) :
    before = [] ∧ line = row ∨
      ∃ later, before = row ++ '\n' :: later ∧ IsLine rest later line after := by
  obtain ⟨heq, hstart, hstop, hline⟩ := h
  rw [List.append_assoc] at heq
  by_cases hmem : '\n' ∈ before
  · -- the first newline of the text is the one behind the row
    obtain ⟨front, later, rfl, hfront⟩ := List.eq_append_cons_of_mem hmem
    rw [List.append_assoc, List.cons_append, append_cons_inj hrow hfront] at heq
    obtain ⟨rfl, hrest⟩ := heq
    refine .inr ⟨later, rfl, ⟨by rw [hrest, List.append_assoc], ?_, hstop, hline⟩⟩
    cases hlast : later.getLast? with
    | none => exact .inl (List.getLast?_eq_none_iff.mp hlast)
    | some c => exact .inr (by simpa [List.getLast?_cons, hlast] using hstart)
  · have hbefore : before = [] :=
      hstart.resolve_right fun hlast => hmem (List.mem_of_getLast? hlast)
    subst hbefore
    rcases hstop with rfl | hhead
    · -- the line would reach over the newline behind the row
      rw [List.nil_append, List.append_nil] at heq
      exact absurd (heq ▸ by simp) hline
    · obtain ⟨tail, rfl⟩ := List.head?_eq_some_iff.mp hhead
      rw [List.nil_append, append_cons_inj hrow hline] at heq
      exact .inl ⟨rfl, heq.1.symm⟩

/-- A line of a layout that is not empty is the row of a step. -/
theorem IsLine.exists_step {unit : String} {level : Nat} {steps : List Step}
    {before line after : List Char} (h : IsLine (layout unit level steps) before line after)
    (hne : line ≠ []) (hunit : '\n' ∉ unit.toList) (hsteps : ∀ step ∈ steps, '\n' ∉ step.text.toList) :
    ∃ front step back, steps = front ++ step :: back ∧ before = layout unit level front ∧
      line = step.row unit (levelAfterAll level front) := by
  induction steps generalizing level before with
  | nil =>
    have hnil : line = [] := by
      have heq := h.eq
      rw [layout, eq_comm, List.append_eq_nil_iff, List.append_eq_nil_iff] at heq
      exact heq.1.2
    exact absurd hnil hne
  | cons step steps ih =>
    rw [List.forall_mem_cons] at hsteps
    rcases h.first_or_later (Step.newline_notMem_row hunit level hsteps.1) with
      ⟨rfl, rfl⟩ | ⟨later, rfl, hlater⟩
    · exact ⟨[], step, steps, rfl, rfl, rfl⟩
    · obtain ⟨front, step', back, rfl, rfl, rfl⟩ := ih hlater hsteps.2
      exact ⟨step :: front, step', back, rfl, rfl, rfl⟩

/-- A text that is nested in itself does not start with a closing brace. -/
theorem Opens.ne_closing {n : Nat} {text : String} (h : Opens n text) {c : Char} {cs : List Char}
    (htext : text.toList = c :: cs) : c ≠ '\x7d' := by
  rintro rfl
  have hdepth := h 0
  rw [htext, braceDepth_closing_zero] at hdepth
  exact absurd hdepth (by simp)

/-- A row that is not empty is its indentation and its text. -/
theorem Step.exists_row {unit : String} {level : Nat} {step : Step}
    (hne : step.row unit level ≠ []) (hsolid : startsSolid step.text.toList = true) :
    ∃ c cs, step.text.toList = c :: cs ∧ isBlank c = false ∧
      step.row unit level = (List.replicate (step.ownLevel level) unit.toList).flatten ++ c :: cs := by
  cases htext : step.text.toList with
  | nil =>
    rw [row, String.toList_eq_nil_iff.mp htext] at hne
    exact absurd rfl hne
  | cons c cs =>
    have hempty : step.text.isEmpty = false := by
      rw [Bool.eq_false_iff]
      intro hempty
      rw [String.isEmpty_iff.mp hempty] at htext
      exact absurd htext (by simp)
    rw [htext, startsSolid_cons, Bool.not_eq_true'] at hsolid
    exact ⟨c, cs, rfl, hsolid, by simp [row, hempty, htext, toList_indentation]⟩

/-- The text is well nested, and its indentation is its nesting depth. -/
structure IndentedByBraces (unit text : List Char) : Prop where
  /-- No brace is closed before it is opened. -/
  nested : ∀ front, front <+: text → front.count '\x7d' ≤ front.count '\x7b'
  /-- All braces are closed at the end. -/
  closed : text.count '\x7b' = text.count '\x7d'
  /-- A line that is not empty is indented once for each brace that is open before it, or once less
      if it starts with a closing brace. -/
  lines : ∀ before line after, IsLine text before line after → line ≠ [] →
    ∃ d c rest, line = (List.replicate d unit).flatten ++ c :: rest ∧ isBlank c = false ∧
      before.count '\x7b' = before.count '\x7d' + d + if c = '\x7d' then 1 else 0

namespace Nested

variable {unit : String} {steps : List Step}

theorem exists_of_isLine (hbraces : NoBraces unit.toList) (hnewline : '\n' ∉ unit.toList) {m : Nat}
    (h : Nested 0 steps m) (hrows : AreRows steps) {before line after : List Char}
    (hline : IsLine (layout unit 0 steps) before line after) (hne : line ≠ []) :
    ∃ d c rest, line = (List.replicate d unit.toList).flatten ++ c :: rest ∧ isBlank c = false ∧
      before.count '\x7b' = before.count '\x7d' + d + if c = '\x7d' then 1 else 0 := by
  obtain ⟨front, step, back, rfl, rfl, rfl⟩ :=
    hline.exists_step hne hnewline fun step hstep => (hrows step hstep).1
  obtain ⟨k, hfront, hstep⟩ := h.of_append
  have hcount := count_of_braceDepth (hfront.braceDepth_layout hbraces)
  rw [hfront.levelAfterAll_eq] at hne ⊢
  obtain ⟨c, cs, htext, hsolid, hrow⟩ := Step.exists_row hne (hrows step (by simp)).2
  refine ⟨step.ownLevel k, c, cs, hrow, hsolid, ?_⟩
  cases hstep with
  | line hopens _ =>
    rw [if_neg (hopens.ne_closing htext), Step.ownLevel]
    omega
  | opening hopens _ =>
    rw [if_neg (hopens.ne_closing htext), Step.ownLevel]
    omega
  | closing _ =>
    -- the level before the step still counts the brace that it closes
    simp only [Step.text_closing, String.reduceToList, List.cons.injEq] at htext
    rw [if_pos htext.1.symm, Step.ownLevel]
    omega
  | blank _ => exact absurd rfl hne

/-- **Indentation is nesting.** Rows that are nested from the outermost level back to it make a text
    that is indented by its braces. -/
theorem indentedByBraces (hbraces : NoBraces unit.toList) (hnewline : '\n' ∉ unit.toList)
    (h : Nested 0 steps 0) (hrows : AreRows steps) :
    IndentedByBraces unit.toList (layout unit 0 steps) where
  nested _ hfront := count_le_of_braceDepth (h.braceDepth_layout hbraces) hfront
  closed := by simpa using count_of_braceDepth (h.braceDepth_layout hbraces)
  lines _ _ _ := h.exists_of_isLine hbraces hnewline hrows

end Nested

end VisitorGen
