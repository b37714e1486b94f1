import Mathlib.Data.List.Forall2
import VisitorGen.Batch

set_option autoImplicit false

/-! # Runs as folds

A run is the fold of its tables in order: each table adds one *entry* to the report, and the next
table starts from the state that it leaves. Nothing is assumed of the outlet, which may fail at any
unit and change its state even then. Reports are appended as their runs are, the outlet sees the
units of the accepted tables and nothing else, and a refused table leaves no trace but its failure
(`Target.run_is_fold`). -/

namespace VisitorGen

variable {σ ε : Type}

/-! ## Appending reports -/

namespace Report

/-- The report of a run without tables. -/
def empty : Report ε := ⟨[], []⟩

/-- The report on two runs, the second one after the first. -/
def append (a b : Report ε) : Report ε :=
  ⟨a.written ++ b.written, a.failures ++ b.failures⟩

instance : Append (Report ε) := ⟨append⟩

@[simp] theorem written_append (a b : Report ε) : (a ++ b).written = a.written ++ b.written := rfl

@[simp] theorem failures_append (a b : Report ε) : (a ++ b).failures = a.failures ++ b.failures := rfl

theorem empty_append (a : Report ε) : empty ++ a = a := rfl

theorem append_assoc (a b c : Report ε) : a ++ b ++ c = a ++ (b ++ c) := by
  show append (append a b) c = append a (append b c)
  simp only [append, List.append_assoc]

theorem of_cons (o : Outcome ε) (os : List (Outcome ε)) :
    Report.of (o :: os) = Report.of [o] ++ Report.of os := by
  show Report.of (o :: os) = append (Report.of [o]) (Report.of os)
  simp only [Report.of, append, ← List.filterMap_append, List.singleton_append]

end Report

/-! ## Single tables -/

/-- All that delivering a table can do. -/
theorem Target.deliver_cases (t : Target) (outlet : Outlet σ ε) (s : σ) (table : Table) :
    (∃ e, t.generate table.family table.rules = .error e ∧
      t.deliver outlet s table = (.error (.refused e), s)) ∨
    (∃ u s', t.generate table.family table.rules = .ok u ∧ outlet.write s u = (.ok (), s') ∧
      t.deliver outlet s table = (.ok u, s')) ∨
    ∃ u e s', t.generate table.family table.rules = .ok u ∧ outlet.write s u = (.error e, s') ∧
      t.deliver outlet s table = (.error (.unwritten u.fileName e), s') := by
  cases hgen : t.generate table.family table.rules with
  | error e => exact Or.inl ⟨e, rfl, by simp only [deliver, hgen]⟩
  | ok u =>
    right
    cases hwrite : outlet.write s u with
    | mk r s' =>
      cases r with
      | ok _ => exact Or.inl ⟨u, s', rfl, hwrite, by simp only [deliver, hgen, hwrite]⟩
      | error e => exact Or.inr ⟨u, e, s', rfl, hwrite, by simp only [deliver, hgen, hwrite]⟩

/-- The entry of one table: the report on it alone, and the state that it leaves. -/
def Target.entry (t : Target) (outlet : Outlet σ ε) (s : σ) (table : Table) : Report ε × σ :=
  match t.generate table.family table.rules with
  | .error e => (⟨[], [⟨table.family, .refused e⟩]⟩, s)
  | .ok u =>
    match outlet.write s u with
    | (.ok (), s') => (⟨[u.fileName], []⟩, s')
    | (.error e, s') => (⟨[], [⟨table.family, .unwritten u.fileName e⟩]⟩, s')

theorem Target.deliver_eq_entry (t : Target) (outlet : Outlet σ ε) (s : σ) (table : Table) :
    (Report.of [⟨table, (t.deliver outlet s table).1⟩], (t.deliver outlet s table).2)
      = t.entry outlet s table := by
  rcases t.deliver_cases outlet s table with ⟨e, hgen, hdeliver⟩ |
    ⟨u, s', hgen, hwrite, hdeliver⟩ | ⟨u, e, s', hgen, hwrite, hdeliver⟩
  · rw [hdeliver, entry, hgen]
    rfl
  · simp only [hdeliver, entry, hgen, hwrite]
    rfl
  · simp only [hdeliver, entry, hgen, hwrite]
    rfl

/-- All that the entry of a table can be. -/
theorem Target.entry_cases (t : Target) (outlet : Outlet σ ε) (s : σ) (table : Table) :
    (∃ e, t.generate table.family table.rules = .error e ∧
      t.entry outlet s table = (⟨[], [⟨table.family, .refused e⟩]⟩, s)) ∨
    (∃ u s', t.generate table.family table.rules = .ok u ∧ outlet.write s u = (.ok (), s') ∧
      t.entry outlet s table = (⟨[u.fileName], []⟩, s')) ∨
    ∃ u e s', t.generate table.family table.rules = .ok u ∧ outlet.write s u = (.error e, s') ∧
      t.entry outlet s table = (⟨[], [⟨table.family, .unwritten u.fileName e⟩]⟩, s') := by
  rw [← t.deliver_eq_entry]
  rcases t.deliver_cases outlet s table with ⟨e, hgen, hdeliver⟩ |
    ⟨u, s', hgen, hwrite, hdeliver⟩ | ⟨u, e, s', hgen, hwrite, hdeliver⟩
  · exact Or.inl ⟨e, hgen, by rw [hdeliver]; rfl⟩
  · exact Or.inr (Or.inl ⟨u, s', hgen, hwrite, by rw [hdeliver]; rfl⟩)
  · exact Or.inr (Or.inr ⟨u, e, s', hgen, hwrite, by rw [hdeliver]; rfl⟩)

/-! ## One table after another -/

@[simp] theorem Target.run_nil (t : Target) (outlet : Outlet σ ε) (s : σ) :
    t.run outlet s [] = (.empty, s) := rfl

/-- A run adds the entry of its first table and goes on from there. -/
theorem Target.run_cons (t : Target) (outlet : Outlet σ ε) (s : σ) (table : Table)
    (tables : List Table) :
    t.run outlet s (table :: tables) =
      ((t.entry outlet s table).1 ++ (t.run outlet (t.entry outlet s table).2 tables).1,
        (t.run outlet (t.entry outlet s table).2 tables).2) := by
  rw [← t.deliver_eq_entry]
  simp only [run, deliverAll]
  rw [Report.of_cons]

theorem Target.run_append (t : Target) (outlet : Outlet σ ε) (s : σ) (front back : List Table) :
    t.run outlet s (front ++ back) =
      ((t.run outlet s front).1 ++ (t.run outlet (t.run outlet s front).2 back).1,
        (t.run outlet (t.run outlet s front).2 back).2) := by
  induction front generalizing s with
  | nil =>
    rw [List.nil_append, run_nil, Report.empty_append]
  | cons table front ih =>
    rw [List.cons_append, run_cons, ih, run_cons, Report.append_assoc]

theorem Target.run_eq_foldl (t : Target) (outlet : Outlet σ ε) (s : σ) (tables : List Table) :
    t.run outlet s tables = tables.foldl
      (fun (r, s) table => (r ++ (t.entry outlet s table).1, (t.entry outlet s table).2))
      (.empty, s) := by
  -- the fold has to start from any report for the induction to go through
  suffices h : ∀ r : Report ε, tables.foldl
      (fun (r, s) table => (r ++ (t.entry outlet s table).1, (t.entry outlet s table).2)) (r, s)
      = (r ++ (t.run outlet s tables).1, (t.run outlet s tables).2) by
    rw [h, Report.empty_append]
  induction tables generalizing s with
  | nil =>
    intro r
    show (r, s) = (Report.append r .empty, s)
    simp only [Report.append, Report.empty, List.append_nil]
  | cons table tables ih =>
    intro r
    rw [List.foldl_cons, ih, run_cons, Report.append_assoc]

/-! ## Outcomes -/

theorem Outcome.written?_eq_some_iff {o : Outcome ε} {file : String} :
    o.written? = some file ↔ ∃ u, o.result = .ok u ∧ u.fileName = file := by
  rw [written?]
  cases o.result with
  | ok u => simp
  | error e => simp

theorem Report.mem_written_of {os : List (Outcome ε)} {file : String} :
    file ∈ (Report.of os).written ↔ ∃ o ∈ os, ∃ u, o.result = .ok u ∧ u.fileName = file := by
  simp only [Report.of, List.mem_filterMap, Outcome.written?_eq_some_iff]

/-- The family of a table that was written. -/
def Outcome.writtenFamily? (o : Outcome ε) : Option String :=
  match o.result with
  | .ok _ => some o.table.family
  | .error _ => none

theorem Outcome.writtenFamily?_eq_some_iff {o : Outcome ε} {family : String} :
    o.writtenFamily? = some family ↔ ∃ u, o.result = .ok u ∧ o.table.family = family := by
  rw [writtenFamily?]
  cases o.result with
  | ok u => simp
  | error e => simp

/-- A list that is mapped in part has no double exactly if none of its values comes again behind
    itself. -/
theorem nodup_filterMap_iff {α β : Type} (f : α → Option β) (l : List α) :
    (l.filterMap f).Nodup ↔ ∀ front a back, l = front ++ a :: back →
      ∀ b, f a = some b → b ∉ back.filterMap f := by
  constructor
  · rintro h front a back rfl b hb
    rw [List.filterMap_append, List.filterMap_cons_some hb, List.nodup_append,
      List.nodup_cons] at h
    exact h.2.1.1
  · intro h
    induction l with
    | nil => exact List.nodup_nil
    | cons a l ih =>
      have htail : (l.filterMap f).Nodup := by
        refine ih fun front a' back hl b hb => ?_
        exact h (a :: front) a' back (by rw [hl]; rfl) b hb
      cases ha : f a with
      | none => rwa [List.filterMap_cons_none ha]
      | some b =>
        rw [List.filterMap_cons_some ha, List.nodup_cons]
        exact ⟨h [] a l rfl b ha, htail⟩

theorem Target.deliverAll_cons (t : Target) (outlet : Outlet σ ε) (s : σ) (table : Table)
    (tables : List Table) :
    t.deliverAll outlet s (table :: tables) =
      (⟨table, (t.deliver outlet s table).1⟩ ::
          (t.deliverAll outlet (t.deliver outlet s table).2 tables).1,
        (t.deliverAll outlet (t.deliver outlet s table).2 tables).2) := rfl

/-- The outcomes of a run are those of its tables, in order. -/
theorem Target.map_table_deliverAll (t : Target) (outlet : Outlet σ ε) (s : σ)
    (tables : List Table) : (t.deliverAll outlet s tables).1.map (·.table) = tables := by
  induction tables generalizing s with
  | nil => rfl
  | cons table tables ih => rw [deliverAll_cons, List.map_cons, ih]

/-- A unit that was delivered was generated and written. -/
theorem Target.deliver_eq_ok {t : Target} {outlet : Outlet σ ε} {s : σ} {table : Table}
    {u : SourceUnit} (h : (t.deliver outlet s table).1 = .ok u) :
    t.generate table.family table.rules = .ok u ∧
      outlet.write s u = (.ok (), (t.deliver outlet s table).2) := by
  rcases t.deliver_cases outlet s table with ⟨e, -, hdeliver⟩ | ⟨v, s', hgen, hwrite, hdeliver⟩ |
    ⟨v, e, s', -, -, hdeliver⟩
  · simp [hdeliver] at h
  · rw [hdeliver, Except.ok.injEq] at h
    rw [hdeliver, ← h]
    exact ⟨hgen, hwrite⟩
  · simp [hdeliver] at h

/-- Each outcome comes from the state that the outcomes before it have left, and those after it come
    from the state that it leaves. -/
theorem Target.exists_of_deliverAll_eq {t : Target} {outlet : Outlet σ ε} {s : σ}
    {tables : List Table} {front back : List (Outcome ε)} {o : Outcome ε}
    (h : (t.deliverAll outlet s tables).1 = front ++ o :: back) :
    ∃ s' rest, (t.deliver outlet s' o.table).1 = o.result ∧
      (t.deliverAll outlet (t.deliver outlet s' o.table).2 rest).1 = back ∧
      (t.deliverAll outlet (t.deliver outlet s' o.table).2 rest).2 =
        (t.deliverAll outlet s tables).2 := by
  induction front generalizing s tables with
  | nil =>
    cases tables with
    | nil => simp [deliverAll] at h
    | cons table tables =>
      rw [deliverAll_cons, List.nil_append, List.cons.injEq] at h
      obtain ⟨rfl, rfl⟩ := h
      exact ⟨s, tables, rfl, rfl, rfl⟩
  | cons a front ih =>
    cases tables with
    | nil => simp [deliverAll] at h
    | cons table tables =>
      rw [deliverAll_cons, List.cons_append, List.cons.injEq] at h
      obtain ⟨s', rest, hresult, hback, hstate⟩ := ih h.2
      exact ⟨s', rest, hresult, hback, hstate⟩

/-- Every outcome with a unit has the unit of its table. -/
theorem Target.generate_of_mem_deliverAll {t : Target} {outlet : Outlet σ ε} {s : σ}
    {tables : List Table} {o : Outcome ε} (ho : o ∈ (t.deliverAll outlet s tables).1)
    {u : SourceUnit} (hu : o.result = .ok u) : t.generate o.table.family o.table.rules = .ok u := by
  obtain ⟨front, back, hsplit⟩ := List.append_of_mem ho
  obtain ⟨s', -, hresult, -, -⟩ := Target.exists_of_deliverAll_eq hsplit
  rw [hu] at hresult
  exact (Target.deliver_eq_ok hresult).1

/-- The outcomes behind one of a family are those of other families, if the families differ. -/
theorem Target.family_ne_of_deliverAll_eq {t : Target} {outlet : Outlet σ ε} {s : σ}
    {tables : List Table} (hdistinct : (tables.map (·.family)).Nodup)
    {front back : List (Outcome ε)} {o : Outcome ε}
    (h : (t.deliverAll outlet s tables).1 = front ++ o :: back) :
    ∀ o' ∈ back, o.table.family ≠ o'.table.family := by
  intro o' ho' heq
  rw [← t.map_table_deliverAll outlet s tables, h, List.map_map, List.map_append, List.map_cons,
    List.nodup_append, List.nodup_cons] at hdistinct
  exact hdistinct.2.1.1 (List.mem_map.mpr ⟨o', ho', heq.symm⟩)

/-! ## What the outlet sees -/

/-- An outlet that does what another one does, and keeps a record of the units that it is asked to
    write. -/
def Outlet.recording (outlet : Outlet σ ε) : Outlet (σ × List SourceUnit) ε where
  write := fun (s, calls) u => ((outlet.write s u).1, (outlet.write s u).2, calls ++ [u])

/-- The units of the tables that are accepted, in order. -/
def Target.units (t : Target) (tables : List Table) : List SourceUnit :=
  tables.filterMap fun table => (t.generate table.family table.rules).toOption

theorem Target.entry_recording (t : Target) (outlet : Outlet σ ε) (s : σ) (calls : List SourceUnit)
    (table : Table) :
    t.entry outlet.recording (s, calls) table =
      ((t.entry outlet s table).1, (t.entry outlet s table).2, calls ++ t.units [table]) := by
  rcases t.entry_cases outlet s table with ⟨e, hgen, hentry⟩ | ⟨u, s', hgen, hwrite, hentry⟩ |
    ⟨u, e, s', hgen, hwrite, hentry⟩
  · rw [hentry]
    simp [entry, units, hgen, Except.toOption]
  · rw [hentry]
    simp [entry, units, hgen, Outlet.recording, hwrite, Except.toOption]
  · rw [hentry]
    simp [entry, units, hgen, Outlet.recording, hwrite, Except.toOption]

/-- The calls that a run makes do not depend on the outlet. -/
theorem Target.run_recording (t : Target) (outlet : Outlet σ ε) (s : σ) (calls : List SourceUnit)
    (tables : List Table) :
    t.run outlet.recording (s, calls) tables =
      ((t.run outlet s tables).1, (t.run outlet s tables).2, calls ++ t.units tables) := by
  induction tables generalizing s calls with
  | nil => simp [units]
  | cons table tables ih =>
    have hunits : t.units (table :: tables) = t.units [table] ++ t.units tables := by
      rw [units, units, units, ← List.filterMap_append, List.singleton_append]
    rw [run_cons, entry_recording, ih, run_cons, hunits, List.append_assoc]

/-! ## The lists of the report -/

theorem Target.length_run (t : Target) (outlet : Outlet σ ε) (s : σ) (tables : List Table) :
    (t.run outlet s tables).1.written.length + (t.run outlet s tables).1.failures.length
      = tables.length := by
  induction tables generalizing s with
  | nil => rfl
  | cons table tables ih =>
    have hone : (t.entry outlet s table).1.written.length
        + (t.entry outlet s table).1.failures.length = 1 := by
      rcases t.entry_cases outlet s table with ⟨_, _, hentry⟩ | ⟨_, _, _, _, hentry⟩ |
        ⟨_, _, _, _, _, hentry⟩
      all_goals rw [hentry]; rfl
    have hrest := ih (t.entry outlet s table).2
    rw [run_cons]
    simp only [Report.written_append, Report.failures_append, List.length_append, List.length_cons]
    omega

/-- The file is that of the table's unit. -/
def Target.IsFileOf (t : Target) (table : Table) (file : String) : Prop :=
  ∃ u, t.generate table.family table.rules = .ok u ∧ u.fileName = file

/-- A run succeeds exactly if it has written the file of every table. -/
theorem Target.allWritten_iff (t : Target) (outlet : Outlet σ ε) (s : σ) (tables : List Table) :
    (t.run outlet s tables).1.allWritten = true ↔
      List.Forall₂ t.IsFileOf tables (t.run outlet s tables).1.written := by
  constructor
  · intro h
    rw [Report.allWritten, List.isEmpty_iff] at h
    induction tables generalizing s with
    | nil => exact .nil
    | cons table tables ih =>
      rw [run_cons] at h ⊢
      rw [Report.failures_append, List.append_eq_nil_iff] at h
      rcases t.entry_cases outlet s table with ⟨e, _, hentry⟩ | ⟨u, s', hgen, _, hentry⟩ |
        ⟨u, e, s', _, _, hentry⟩
      · simp [hentry] at h
      · rw [Report.written_append]
        have htail := ih _ h.2
        rw [hentry] at htail ⊢
        exact .cons ⟨u, hgen, rfl⟩ htail
      · simp [hentry] at h
  · -- a file for every table leaves no room for a failure
    intro h
    have hlength := t.length_run outlet s tables
    rw [h.length_eq, Nat.add_eq_left] at hlength
    rw [Report.allWritten, List.isEmpty_iff]
    exact List.eq_nil_of_length_eq_zero hlength

/-! ## Refused tables -/

/-- Whether a unit is generated for the table. -/
def Target.accepts (t : Target) (table : Table) : Bool :=
  (t.generate table.family table.rules).isOk

/-- Whether a family failed at the outlet. -/
def Failure.isUnwritten (f : Failure ε) : Bool :=
  match f.error with
  | .refused _ => false
  | .unwritten _ _ => true

/-- A run without the refused tables differs only in their failures. -/
theorem Target.run_filter_accepts (t : Target) (outlet : Outlet σ ε) (s : σ)
    (tables : List Table) :
    t.run outlet s (tables.filter t.accepts) =
      (⟨(t.run outlet s tables).1.written,
        (t.run outlet s tables).1.failures.filter Failure.isUnwritten⟩,
        (t.run outlet s tables).2) := by
  induction tables generalizing s with
  | nil => rfl
  | cons table tables ih =>
    rcases t.entry_cases outlet s table with ⟨e, hgen, hentry⟩ | ⟨u, s', hgen, _, hentry⟩ |
      ⟨u, e, s', hgen, _, hentry⟩
    · have hrefused : t.accepts table = false := by simp [accepts, hgen, Except.isOk, Except.toBool]
      rw [List.filter_cons_of_neg (by simp [hrefused]), ih, run_cons, hentry]
      rfl
    · have haccepted : t.accepts table = true := by simp [accepts, hgen, Except.isOk, Except.toBool]
      rw [List.filter_cons_of_pos haccepted, run_cons, run_cons, hentry, ih]
      rfl
    · have haccepted : t.accepts table = true := by simp [accepts, hgen, Except.isOk, Except.toBool]
      rw [List.filter_cons_of_pos haccepted, run_cons, run_cons, hentry, ih]
      rfl

/-- **A run is the fold of its tables.** Whatever the outlet does, it is called once for each unit
    of the accepted tables, in order. Each table adds one entry to the report, which is a file if
    the unit is generated and written, and else a failure. A run succeeds exactly if the files of
    all tables were written. Runs are appended as their tables are, and without the refused tables
    a run leaves the same state, files and other failures. -/
theorem Target.run_is_fold (t : Target) (outlet : Outlet σ ε) (s : σ) (tables : List Table) :
    (∀ calls, t.run outlet.recording (s, calls) tables =
      ((t.run outlet s tables).1, (t.run outlet s tables).2, calls ++ t.units tables)) ∧
    t.run outlet s tables = tables.foldl
      (fun (r, s) table => (r ++ (t.entry outlet s table).1, (t.entry outlet s table).2))
      (.empty, s) ∧
    (t.run outlet s tables).1.written.length + (t.run outlet s tables).1.failures.length
      = tables.length ∧
    ((t.run outlet s tables).1.allWritten = true ↔
      List.Forall₂ t.IsFileOf tables (t.run outlet s tables).1.written) ∧
    (∀ more, t.run outlet s (tables ++ more) =
      ((t.run outlet s tables).1 ++ (t.run outlet (t.run outlet s tables).2 more).1,
        (t.run outlet (t.run outlet s tables).2 more).2)) ∧
    t.run outlet s (tables.filter t.accepts) =
      (⟨(t.run outlet s tables).1.written,
        (t.run outlet s tables).1.failures.filter Failure.isUnwritten⟩,
        (t.run outlet s tables).2) := by
  refine ⟨fun calls => ?_, ?_, ?_, ?_, fun more => ?_, ?_⟩
  · exact t.run_recording outlet s calls tables
  · exact t.run_eq_foldl outlet s tables
  · exact t.length_run outlet s tables
  · exact t.allWritten_iff outlet s tables
  · exact t.run_append outlet s tables more
  · exact t.run_filter_accepts outlet s tables

end VisitorGen
