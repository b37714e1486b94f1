import VisitorGen.Proofs.Batch
import VisitorGen.Proofs.Target.FileName

set_option autoImplicit false

/-! # One unit after another

An outlet that is given a list of units answers with a list of *receipts*, one for each unit. A run
does just that with the units of the tables that are accepted: its final state, the files that it has
written and its failures at the outlet are those of the receipts (`Target.run_eq_writeAll`). What is
left of the report, the refusals, does not depend on the outlet (`Target.run_of_all_written`). -/

namespace VisitorGen

variable {σ ε : Type}

/-! ## Receipts -/

/-- What became of a unit at an outlet. -/
structure Receipt (ε : Type := IoError) where
  unit : SourceUnit
  result : Except ε Unit

/-- The unit of a receipt, if it was written. -/
def Receipt.written? (r : Receipt ε) : Option SourceUnit :=
  match r.result with
  | .ok _ => some r.unit
  | .error _ => none

/-- The failure of a unit that was not written. -/
def Receipt.failure? (r : Receipt ε) : Option (Failure ε) :=
  match r.result with
  | .ok _ => none
  | .error e => some ⟨r.unit.family, .unwritten r.unit.fileName e⟩

namespace Outlet

/-- Write units in order: the receipts, and the state in the end. -/
def writeAll (outlet : Outlet σ ε) (s : σ) : List SourceUnit → List (Receipt ε) × σ
  | [] => ([], s)
  | u :: units =>
    let (result, s') := outlet.write s u
    let (receipts, s'') := outlet.writeAll s' units
    (⟨u, result⟩ :: receipts, s'')

/-- The units that are written, in order. -/
def written (outlet : Outlet σ ε) (s : σ) (units : List SourceUnit) : List SourceUnit :=
  (outlet.writeAll s units).1.filterMap Receipt.written?

@[simp] theorem writeAll_nil (outlet : Outlet σ ε) (s : σ) : outlet.writeAll s [] = ([], s) := rfl

theorem writeAll_cons (outlet : Outlet σ ε) (s : σ) (u : SourceUnit) (units : List SourceUnit) :
    outlet.writeAll s (u :: units) =
      (⟨u, (outlet.write s u).1⟩ :: (outlet.writeAll (outlet.write s u).2 units).1,
        (outlet.writeAll (outlet.write s u).2 units).2) := rfl

@[simp] theorem written_nil (outlet : Outlet σ ε) (s : σ) : outlet.written s [] = [] := rfl

theorem written_cons_of_ok {outlet : Outlet σ ε} {s s' : σ} {u : SourceUnit}
    (h : outlet.write s u = (.ok (), s')) (units : List SourceUnit) :
    outlet.written s (u :: units) = u :: outlet.written s' units := by
  rw [written, writeAll_cons, h]
  rfl

theorem written_cons_of_error {outlet : Outlet σ ε} {s s' : σ} {u : SourceUnit} {e : ε}
    (h : outlet.write s u = (.error e, s')) (units : List SourceUnit) :
    outlet.written s (u :: units) = outlet.written s' units := by
  rw [written, writeAll_cons, h]
  rfl

/-- Nothing is written but what was given. -/
theorem written_sublist (outlet : Outlet σ ε) (s : σ) (units : List SourceUnit) :
    (outlet.written s units).Sublist units := by
  induction units generalizing s with
  | nil => exact .slnil
  | cons u units ih =>
    cases hwrite : outlet.write s u with
    | mk r s' =>
      cases r with
      | ok _ =>
        rw [written_cons_of_ok hwrite]
        exact (ih s').cons_cons u
      | error e =>
        rw [written_cons_of_error hwrite]
        exact (ih s').cons u

end Outlet

/-! ## Runs -/

theorem Target.family_of_generate {t : Target} {family : String} {lines : List String}
    {u : SourceUnit} (h : t.generate family lines = .ok u) : u.family = family := by
  obtain ⟨f, rfl, -, -, rfl⟩ := Target.generate_cases h
  rfl

theorem Target.units_cons_of_ok {t : Target} {table : Table} {u : SourceUnit}
    (h : t.generate table.family table.rules = .ok u) (tables : List Table) :
    t.units (table :: tables) = u :: t.units tables := by
  simp [units, h, Except.toOption]

theorem Target.units_cons_of_error {t : Target} {table : Table} {e : FamilyError}
    (h : t.generate table.family table.rules = .error e) (tables : List Table) :
    t.units (table :: tables) = t.units tables := by
  simp [units, h, Except.toOption]

theorem Target.mem_units_iff {t : Target} {tables : List Table} {u : SourceUnit} :
    u ∈ t.units tables ↔ ∃ table ∈ tables, t.generate table.family table.rules = .ok u := by
  rw [units, List.mem_filterMap]
  refine exists_congr fun table => and_congr_right fun _ => ?_
  cases t.generate table.family table.rules <;> simp [Except.toOption]

/-- **A run writes the units of its tables.** The state that it leaves, the files that it reports as
    written and the failures at the outlet are those of the units of the accepted tables, written one
    after another. -/
theorem Target.run_eq_writeAll (t : Target) (outlet : Outlet σ ε) (s : σ) (tables : List Table) :
    (t.run outlet s tables).2 = (outlet.writeAll s (t.units tables)).2 ∧
    (t.run outlet s tables).1.written = (outlet.written s (t.units tables)).map (·.fileName) ∧
    (t.run outlet s tables).1.failures.filter Failure.isUnwritten =
      (outlet.writeAll s (t.units tables)).1.filterMap Receipt.failure? := by
  induction tables generalizing s with
  | nil => exact ⟨rfl, rfl, rfl⟩
  | cons table tables ih =>
    rw [run_cons, Report.written_append, Report.failures_append, List.filter_append]
    rcases t.entry_cases outlet s table with ⟨e, hgen, hentry⟩ | ⟨u, s', hgen, hwrite, hentry⟩ |
      ⟨u, e, s', hgen, hwrite, hentry⟩
    · rw [hentry, units_cons_of_error hgen]
      exact ih s
    · obtain ⟨hstate, hwritten, hfailures⟩ := ih s'
      rw [hentry, units_cons_of_ok hgen, Outlet.writeAll_cons, Outlet.written_cons_of_ok hwrite,
        hwrite]
      exact ⟨hstate, by rw [hwritten]; rfl, by rw [hfailures]; rfl⟩
    · obtain ⟨hstate, hwritten, hfailures⟩ := ih s'
      rw [hentry, units_cons_of_ok hgen, Outlet.writeAll_cons, Outlet.written_cons_of_error hwrite,
        hwrite, hwritten, hfailures, ← Target.family_of_generate hgen]
      exact ⟨hstate, rfl, rfl⟩

/-- The failure of a table that is refused. -/
def Target.refusal? (t : Target) (table : Table) : Option (Failure ε) :=
  match t.generate table.family table.rules with
  | .error e => some ⟨table.family, .refused e⟩
  | .ok _ => none

/-- The report of a run that has no failure at the outlet does not depend on the outlet. -/
theorem Target.run_of_all_written {t : Target} {outlet : Outlet σ ε} {s : σ} {tables : List Table}
    (h : ∀ f ∈ (t.run outlet s tables).1.failures, f.isUnwritten = false) :
    (t.run outlet s tables).1 =
      ⟨(t.units tables).map (·.fileName), tables.filterMap t.refusal?⟩ := by
  induction tables generalizing s with
  | nil => rfl
  | cons table tables ih =>
    rw [run_cons, Report.failures_append, List.forall_mem_append] at h
    rw [run_cons, ih h.2]
    rcases t.entry_cases outlet s table with ⟨e, hgen, hentry⟩ | ⟨u, s', hgen, -, hentry⟩ |
      ⟨u, e, s', -, -, hentry⟩
    · rw [hentry, units_cons_of_error hgen,
        List.filterMap_cons_some (by rw [Target.refusal?, hgen])]
      rfl
    · rw [hentry, units_cons_of_ok hgen, List.filterMap_cons_none (by rw [Target.refusal?, hgen])]
      rfl
    · rw [hentry] at h
      exact absurd (h.1 _ (List.mem_singleton_self _)) (by simp [Failure.isUnwritten])

end VisitorGen
