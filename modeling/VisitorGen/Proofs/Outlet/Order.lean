import VisitorGen.Proofs.Outlet.KeptFiles
import VisitorGen.Proofs.Outlet.Slot

set_option autoImplicit false

/-! # The order of tables

In a settled tree the outcome of a table depends on its own slot alone, so neither the order of the
tables nor their repetition has an influence on it, and the file of a table is the one that it would
have alone. A run into any other tree settles it with its first unit (`Target.order_free`). If that
fails halfway, the failures behind it may have another cause (`Target.run_again_differs`). -/

namespace VisitorGen

/-! ## Outcomes without their causes -/

section

variable {ε : Type}

/-- A delivery error, whatever its cause at the outlet. -/
def DeliveryError.withoutCause : DeliveryError ε → DeliveryError Unit
  | .refused cause => .refused cause
  | .unwritten fileName _ => .unwritten fileName ()

/-- An outcome, whatever the cause of its failure at the outlet. -/
def Outcome.withoutCause (o : Outcome ε) : Outcome Unit :=
  ⟨o.table, o.result.mapError DeliveryError.withoutCause⟩

end

variable {t : Target} {dir : String} {tree : FileTree} {slots : String → Except IoError Location}
  {table : Table} {tables tables' : List Table} {place : Location} {node : Node}

/-! ## Settled trees -/

/-- What becomes of a table, where units have the given slots. -/
def Target.verdict (t : Target) (slots : String → Except IoError Location) (table : Table) :
    Outcome :=
  ⟨table, (t.generate table.family table.rules).mapError .refused |>.bind fun u =>
    match slots u.fileName with
    | .error e => .error (.unwritten u.fileName e)
    | .ok _ => .ok u⟩

/-- The file of a table and its location, if the table is accepted and its unit has a slot. -/
def Target.file? (t : Target) (slots : String → Except IoError Location) (table : Table) :
    Option (Location × Node) :=
  (t.generate table.family table.rules).toOption.bind fun u =>
    (slots u.fileName).toOption.map fun l => (l, .file u.source.toUTF8)

theorem Target.file?_eq_some_iff : t.file? slots table = some (place, node) ↔
    ∃ u, t.generate table.family table.rules = .ok u ∧ slots u.fileName = .ok place ∧
      node = .file u.source.toUTF8 := by
  rw [file?]
  cases t.generate table.family table.rules with
  | error e => simp [Except.toOption]
  | ok u =>
    cases hslot : slots u.fileName with
    | error e => simp [Except.toOption, hslot]
    | ok l => simp [Except.toOption, hslot, eq_comm]

/-- Delivering a table to a settled tree puts its file there, if it has one. -/
theorem Target.deliver_of_settled (h : tree.Settled dir slots) (table : Table) :
    (⟨table, (t.deliver (.directory dir) tree table).1⟩ : Outcome) = t.verdict slots table ∧
      (t.deliver (.directory dir) tree table).2 =
        (t.file? slots table).elim tree fun f => tree.set f.1 f.2 := by
  cases hgen : t.generate table.family table.rules with
  | error e => simp [deliver, verdict, file?, hgen, Except.mapError, Except.bind, Except.toOption]
  | ok u =>
    have hwrite := h.write (Target.isPlain_fileName hgen)
    cases hslot : slots u.fileName with
    | error e =>
      simp [deliver, verdict, file?, hgen, hwrite, hslot, Except.mapError, Except.bind,
        Except.toOption]
    | ok l =>
      simp [deliver, verdict, file?, hgen, hwrite, hslot, Except.mapError, Except.bind,
        Except.toOption]

theorem Target.settled_deliver (h : tree.Settled dir slots) (table : Table) :
    (t.deliver (.directory dir) tree table).2.Settled dir slots := by
  rw [(Target.deliver_of_settled h table).2]
  cases hfile : t.file? slots table with
  | none => exact h
  | some f =>
    obtain ⟨u, -, hslot, hnode⟩ := Target.file?_eq_some_iff.mp hfile
    rw [Option.elim_some, hnode]
    exact h.set hslot _

/-- A table changes the tree at most where its file is. -/
theorem Target.node?_deliver (h : tree.Settled dir slots) (table : Table) (place : Location) :
    (∃ node, t.file? slots table = some (place, node) ∧
      (t.deliver (.directory dir) tree table).2.node? place = some node) ∨
    (∀ node, t.file? slots table ≠ some (place, node)) ∧
      (t.deliver (.directory dir) tree table).2.node? place = tree.node? place := by
  rw [(Target.deliver_of_settled h table).2]
  cases hfile : t.file? slots table with
  | none => simp
  | some f =>
    obtain ⟨u, -, hslot, hnode⟩ := Target.file?_eq_some_iff.mp hfile
    rw [Option.elim_some,
      tree.node?_set (FileTree.isBase_of_not_directory (h.node?_slot hslot)) f.2 place]
    by_cases hplace : place = f.1
    · exact Or.inl ⟨f.2, by rw [hplace], if_pos hplace⟩
    · rw [if_neg hplace]
      exact Or.inr ⟨fun node heq => hplace (by rw [Option.some.inj heq]), rfl⟩

/-! ## Runs in settled trees -/

/-- Every table has the outcome that it would have alone. -/
theorem Target.outcomes_of_settled (h : tree.Settled dir slots) (tables : List Table) :
    (t.deliverAll (.directory dir) tree tables).1 = tables.map (t.verdict slots) := by
  induction tables generalizing tree with
  | nil => rfl
  | cons table tables ih =>
    rw [deliverAll_cons, List.map_cons, (Target.deliver_of_settled h table).1,
      ih (Target.settled_deliver h table)]

theorem Target.settled_deliverAll (h : tree.Settled dir slots) (tables : List Table) :
    (t.deliverAll (.directory dir) tree tables).2.Settled dir slots := by
  induction tables generalizing tree with
  | nil => exact h
  | cons table tables ih => exact ih (Target.settled_deliver h table)

/-- Different tables have different file names, as far as they are accepted. -/
def Target.NamesApart (t : Target) (tables : List Table) : Prop :=
  ∀ a ∈ tables, ∀ b ∈ tables, ∀ u v, t.generate a.family a.rules = .ok u →
    t.generate b.family b.rules = .ok v → u.fileName = v.fileName → a = b

theorem Target.NamesApart.file?_unique (hnames : t.NamesApart tables) (h : tree.Settled dir slots)
    {a b : Table} (ha : a ∈ tables) (hb : b ∈ tables) {m n : Node}
    (hm : t.file? slots a = some (place, m)) (hn : t.file? slots b = some (place, n)) : m = n := by
  obtain ⟨u, hu, huslot, rfl⟩ := Target.file?_eq_some_iff.mp hm
  obtain ⟨v, hv, hvslot, rfl⟩ := Target.file?_eq_some_iff.mp hn
  have hname : u.fileName = v.fileName := h.name_eq huslot hvslot
  obtain rfl := hnames a ha b hb u v hu hv hname
  rw [Except.ok.inj (hu.symm.trans hv)]

theorem Target.node?_deliverAll_of_not (h : tree.Settled dir slots)
    (hnone : ∀ table ∈ tables, ∀ node, t.file? slots table ≠ some (place, node)) :
    (t.deliverAll (.directory dir) tree tables).2.node? place = tree.node? place := by
  induction tables generalizing tree with
  | nil => rfl
  | cons table tables ih =>
    rw [List.forall_mem_cons] at hnone
    rw [deliverAll_cons, ih (Target.settled_deliver h table) hnone.2]
    rcases Target.node?_deliver h table place with ⟨node, hfile, -⟩ | ⟨-, hnode⟩
    · exact absurd hfile (hnone.1 node)
    · exact hnode

/-- A run leaves the file of each table, if their names differ. -/
theorem Target.node?_deliverAll (h : tree.Settled dir slots) (hnames : t.NamesApart tables)
    (hmem : table ∈ tables) (hfile : t.file? slots table = some (place, node)) :
    (t.deliverAll (.directory dir) tree tables).2.node? place = some node := by
  induction tables generalizing tree table node with
  | nil => exact absurd hmem List.not_mem_nil
  | cons first tables ih =>
    have hsettled := Target.settled_deliver (t := t) h first
    have hrest : t.NamesApart tables := fun a ha b hb =>
      hnames a (List.mem_cons_of_mem _ ha) b (List.mem_cons_of_mem _ hb)
    rw [deliverAll_cons]
    by_cases hlater : ∃ other ∈ tables, ∃ n, t.file? slots other = some (place, n)
    · obtain ⟨other, hother, n, hn⟩ := hlater
      rw [hnames.file?_unique h hmem (List.mem_cons_of_mem _ hother) hfile hn]
      exact ih hsettled hrest hother hn
    · -- nothing behind the first table is written there, so that is the table of the file
      have hnone : ∀ other ∈ tables, ∀ n, t.file? slots other ≠ some (place, n) :=
        fun other hother n hn => hlater ⟨other, hother, n, hn⟩
      rw [Target.node?_deliverAll_of_not hsettled hnone]
      rcases List.mem_cons.mp hmem with rfl | hmem
      · rcases Target.node?_deliver h table place with ⟨n, hn, hnode⟩ | ⟨hnot, -⟩
        · rw [hnode, ← (Prod.mk.inj (Option.some.inj (hn.symm.trans hfile))).2]
        · exact absurd hfile (hnot node)
      · exact absurd hfile (hnone table hmem node)

/-- A run changes nothing where the file of each table is there already. -/
theorem Target.deliverAll_of_stored (h : tree.Settled dir slots)
    (hstored : ∀ table ∈ tables, ∀ place node, t.file? slots table = some (place, node) →
      tree.node? place = some node) : (t.deliverAll (.directory dir) tree tables).2 = tree := by
  induction tables with
  | nil => rfl
  | cons table tables ih =>
    rw [List.forall_mem_cons] at hstored
    have hsame : (t.deliver (.directory dir) tree table).2 = tree := by
      rw [(Target.deliver_of_settled h table).2]
      cases hfile : t.file? slots table with
      | none => rfl
      | some f =>
        obtain ⟨u, -, hslot, -⟩ := Target.file?_eq_some_iff.mp hfile
        exact FileTree.set_eq_self (FileTree.isBase_of_not_directory (h.node?_slot hslot))
          (hstored.1 f.1 f.2 hfile)
    rw [deliverAll_cons, hsame]
    exact ih hstored.2

/-- Where the files end up depends neither on the order of the tables nor on their number. -/
theorem Target.node?_deliverAll_congr (h : tree.Settled dir slots)
    (hsame : ∀ table, table ∈ tables ↔ table ∈ tables') (hnames : t.NamesApart tables)
    (place : Location) : (t.deliverAll (.directory dir) tree tables).2.node? place =
      (t.deliverAll (.directory dir) tree tables').2.node? place := by
  have hnames' : t.NamesApart tables' := fun a ha b hb =>
    hnames a ((hsame a).mpr ha) b ((hsame b).mpr hb)
  by_cases hfile : ∃ table ∈ tables, ∃ node, t.file? slots table = some (place, node)
  · obtain ⟨table, hmem, node, hfile⟩ := hfile
    rw [Target.node?_deliverAll h hnames hmem hfile,
      Target.node?_deliverAll h hnames' ((hsame table).mp hmem) hfile]
  · have hnone : ∀ table ∈ tables, ∀ node, t.file? slots table ≠ some (place, node) :=
      fun table hmem node h => hfile ⟨table, hmem, node, h⟩
    rw [Target.node?_deliverAll_of_not h hnone,
      Target.node?_deliverAll_of_not h fun table hmem => hnone table ((hsame table).mpr hmem)]

/-- A run is the same a second time. -/
theorem Target.deliverAll_again_of_settled (h : tree.Settled dir slots)
    (hnames : t.NamesApart tables) :
    t.deliverAll (.directory dir) (t.deliverAll (.directory dir) tree tables).2 tables =
      t.deliverAll (.directory dir) tree tables := by
  have hagain := Target.settled_deliverAll (t := t) h tables
  refine Prod.ext ?_ ?_
  · rw [Target.outcomes_of_settled hagain, Target.outcomes_of_settled h]
  · exact Target.deliverAll_of_stored hagain fun table hmem place node hfile =>
      Target.node?_deliverAll h hnames hmem hfile

/-! ## Runs in any tree -/

/-- A table is delivered to any tree as to the settled one, except that nothing is made for a table
    that is refused, and for the causes of failures if the directory cannot be made. -/
theorem Target.deliver_makeDirAll (t : Target) (dir : String) (tree : FileTree) (table : Table) :
    (∀ u, t.generate table.family table.rules = .ok u →
      (t.deliver (.directory dir) tree table).2 =
        (t.deliver (.directory dir) (tree.makeDirAll dir).2 table).2) ∧
    (∀ e, t.generate table.family table.rules = .error e →
      (t.deliver (.directory dir) tree table).2 = tree) ∧
    (Outcome.mk table (t.deliver (.directory dir) tree table).1).withoutCause =
      (Outcome.mk table
        (t.deliver (.directory dir) (tree.makeDirAll dir).2 table).1).withoutCause ∧
    (tree.MakesAlike dir → (t.deliver (.directory dir) tree table).1 =
      (t.deliver (.directory dir) (tree.makeDirAll dir).2 table).1) := by
  cases hgen : t.generate table.family table.rules with
  | error e => simp [deliver, hgen]
  | ok u =>
    refine ⟨fun _ _ => ?_, fun e he => absurd he (by simp), ?_⟩
    · rcases Outlet.directory_write_eq dir tree u with hwrite | ⟨-, e, e', tree', he, he'⟩
      · simp only [deliver, hgen, hwrite]
      · simp only [deliver, hgen, he, he']
    · rcases Outlet.directory_write_eq dir tree u with hwrite | ⟨hcause, e, e', tree', he, he'⟩
      · simp only [deliver, hgen, hwrite, implies_true, and_self]
      · refine ⟨?_, fun hsame => absurd hsame hcause⟩
        simp only [deliver, hgen, he, he']
        rfl

/-- A run into any tree has the outcomes of one into the settled tree, except for the causes of
    failures if the directory cannot be made, and the same final tree, unless all tables are
    refused. -/
theorem Target.deliverAll_makeDirAll (t : Target) (dir : String) (tree : FileTree)
    (tables : List Table) :
    (t.units tables ≠ [] → (t.deliverAll (.directory dir) tree tables).2 =
      (t.deliverAll (.directory dir) (tree.makeDirAll dir).2 tables).2) ∧
    (t.units tables = [] → (t.deliverAll (.directory dir) tree tables).2 = tree) ∧
    (t.deliverAll (.directory dir) tree tables).1.map Outcome.withoutCause =
      (t.deliverAll (.directory dir) (tree.makeDirAll dir).2 tables).1.map
        Outcome.withoutCause ∧
    (tree.MakesAlike dir → (t.deliverAll (.directory dir) tree tables).1 =
      (t.deliverAll (.directory dir) (tree.makeDirAll dir).2 tables).1) := by
  induction tables with
  | nil => simp [deliverAll, units]
  | cons table tables ih =>
    obtain ⟨haccepted, hrefused, hcauses, halike⟩ := t.deliver_makeDirAll dir tree table
    rw [deliverAll_cons, deliverAll_cons]
    cases hgen : t.generate table.family table.rules with
    | ok u =>
      -- the first unit settles the tree, so both runs go on from the same one
      rw [haccepted u hgen]
      refine ⟨fun _ => rfl, fun hnone => ?_, ?_, fun hsame => ?_⟩
      · simp [units, hgen, Except.toOption] at hnone
      · rw [List.map_cons, List.map_cons, hcauses]
      · rw [halike hsame]
    | error e =>
      have hunits : t.units (table :: tables) = t.units tables := by
        simp [units, hgen, Except.toOption]
      have hrefused' : ∀ s, t.deliver (.directory dir) s table = (.error (.refused e), s) := by
        intro s
        simp [deliver, hgen]
      rw [hunits, hrefused', hrefused']
      refine ⟨ih.1, ih.2.1, ?_, fun hsame => ?_⟩
      · rw [List.map_cons, List.map_cons, ih.2.2.1]
      · rw [ih.2.2.2 hsame]

theorem Target.units_eq_nil_congr (hsame : ∀ table, table ∈ tables ↔ table ∈ tables') :
    t.units tables = [] ↔ t.units tables' = [] := by
  simp only [units, List.filterMap_eq_nil_iff, hsame]

/-- A second run changes nothing, and has the same outcomes, except for the causes of failures if
    the directory cannot be made. -/
theorem Target.deliverAll_again (t : Target) (dir : String) (tree : FileTree)
    (hnames : t.NamesApart tables) :
    (t.deliverAll (.directory dir) (t.deliverAll (.directory dir) tree tables).2 tables).2 =
      (t.deliverAll (.directory dir) tree tables).2 ∧
    (t.deliverAll (.directory dir) (t.deliverAll (.directory dir) tree tables).2 tables).1.map
      Outcome.withoutCause =
        (t.deliverAll (.directory dir) tree tables).1.map Outcome.withoutCause ∧
    (tree.MakesAlike dir →
      t.deliverAll (.directory dir) (t.deliverAll (.directory dir) tree tables).2 tables =
        t.deliverAll (.directory dir) tree tables) := by
  obtain ⟨hsettled, hrefused, hcauses, halike⟩ := t.deliverAll_makeDirAll dir tree tables
  by_cases hunits : t.units tables = []
  · -- nothing is made for refused tables, so the second run is the first one
    rw [hrefused hunits]
    exact ⟨hrefused hunits, rfl, fun _ => rfl⟩
  · have hfinal := hsettled hunits
    have hagain := Target.deliverAll_again_of_settled (tree.settled_makeDirAll dir) hnames
    rw [hfinal, hagain]
    exact ⟨rfl, hcauses.symm, fun hsame => Prod.ext (halike hsame).symm hfinal.symm⟩

/-! ## Differing causes -/

/-- If the directory cannot be made, the first unit fails for that cause. -/
theorem Target.exists_failure_of_makeDirAll {tree' : FileTree} {e : IoError}
    (h : tree.makeDirAll dir = (.error e, tree')) (hunits : t.units tables ≠ []) :
    ∃ f ∈ (t.run (.directory dir) tree tables).1.failures, ∃ file, f.error = .unwritten file e := by
  induction tables with
  | nil => exact absurd rfl hunits
  | cons table tables ih =>
    rw [run_cons, Report.failures_append]
    cases hgen : t.generate table.family table.rules with
    | ok u =>
      have hentry : t.entry (.directory dir) tree table =
          (⟨[], [⟨table.family, .unwritten u.fileName e⟩]⟩, tree') := by
        simp [entry, hgen, Outlet.directory, h]
      rw [hentry]
      exact ⟨_, List.mem_append_left _ (List.mem_singleton_self _), u.fileName, rfl⟩
    | error cause =>
      have hentry : (t.entry (.directory dir) tree table).2 = tree := by simp [entry, hgen]
      have hrest : t.units tables ≠ [] := by
        simpa [units, hgen, Except.toOption] using hunits
      obtain ⟨f, hf, hcause⟩ := ih hrest
      rw [hentry]
      exact ⟨f, List.mem_append_right _ hf, hcause⟩

/-- In a settled tree without the directory all units fail for one cause. -/
theorem Target.cause_of_makeDirAll {e : IoError} (h : tree.makeDirAll dir = (.error e, tree))
    (tables : List Table) : (t.run (.directory dir) tree tables).2 = tree ∧
      ∀ f ∈ (t.run (.directory dir) tree tables).1.failures, ∀ file cause,
        f.error = .unwritten file cause → cause = e := by
  induction tables with
  | nil => exact ⟨rfl, fun f hf => absurd hf List.not_mem_nil⟩
  | cons table tables ih =>
    have hentry : (t.entry (.directory dir) tree table).2 = tree ∧
        ∀ f ∈ (t.entry (.directory dir) tree table).1.failures, ∀ file cause,
          f.error = .unwritten file cause → cause = e := by
      cases hgen : t.generate table.family table.rules with
      | ok u => simp [entry, hgen, Outlet.directory, h]
      | error cause => simp [entry, hgen]
    rw [run_cons, hentry.1, Report.failures_append]
    refine ⟨ih.1, fun f hf => ?_⟩
    rcases List.mem_append.mp hf with hf | hf
    · exact hentry.2 f hf
    · exact ih.2 f hf

/-- The reports of two runs in a row are the same only if all attempts at the directory end alike. -/
theorem Target.makesAlike_of_run_again (hunits : t.units tables ≠ [])
    (h : (t.run (.directory dir) (t.run (.directory dir) tree tables).2 tables).1 =
      (t.run (.directory dir) tree tables).1) : tree.MakesAlike dir := by
  cases hmade : tree.makeDirAll dir with
  | mk r tree' =>
    cases r with
    | ok _ => exact FileTree.makesAlike_of_ok (by rw [hmade])
    | error e =>
      obtain ⟨e', hagain⟩ := FileTree.makeDirAll_again_of_error hmade
      have hcause := Target.cause_of_makeDirAll (t := t) hagain tables
      have htree : (t.run (.directory dir) tree tables).2 = tree' := by
        have hsettled := (t.deliverAll_makeDirAll dir tree tables).1 hunits
        rw [hmade] at hsettled
        exact hsettled.trans hcause.1
      obtain ⟨f, hf, file, hfile⟩ := Target.exists_failure_of_makeDirAll hmade hunits
      rw [htree] at h
      rw [← h] at hf
      rw [FileTree.MakesAlike, hmade, hagain, hcause.2 f hf file e hfile]

/-- **The order of tables and their repetition.** Lists of the same tables, in any order and number,
    whose accepted tables have different file names, lead to the same file tree, and each table has
    the same outcome in both runs, up to the cause of a failed write. A second run changes nothing
    and has the same outcomes, again up to the causes. The causes are the same as well, if a second
    attempt at making the directory ends like the first one; the reports of two runs in a row are the
    same only then, or if all tables are refused. It does end alike if the directory can be made, or
    if everything in the tree lies in a directory and the path of the directory never turns back. -/
theorem Target.order_free (t : Target) (dir : String) (tree : FileTree)
    {tables tables' : List Table} (hsame : ∀ table, table ∈ tables ↔ table ∈ tables')
    (hnames : t.NamesApart tables) :
    (∀ place, (t.run (.directory dir) tree tables).2.node? place =
      (t.run (.directory dir) tree tables').2.node? place) ∧
    (∀ o, o ∈ (t.deliverAll (.directory dir) tree tables).1.map Outcome.withoutCause ↔
      o ∈ (t.deliverAll (.directory dir) tree tables').1.map Outcome.withoutCause) ∧
    (t.run (.directory dir) (t.run (.directory dir) tree tables).2 tables).2 =
      (t.run (.directory dir) tree tables).2 ∧
    (t.deliverAll (.directory dir) (t.run (.directory dir) tree tables).2 tables).1.map
      Outcome.withoutCause =
        (t.deliverAll (.directory dir) tree tables).1.map Outcome.withoutCause ∧
    (tree.MakesAlike dir → ∀ o, o ∈ (t.deliverAll (.directory dir) tree tables).1 ↔
      o ∈ (t.deliverAll (.directory dir) tree tables').1) ∧
    (t.run (.directory dir) (t.run (.directory dir) tree tables).2 tables =
      t.run (.directory dir) tree tables ↔ t.units tables = [] ∨ tree.MakesAlike dir) ∧
    ((tree.makeDirAll dir).1 = .ok () ∨ tree.Closed ∧ ".." ∉ (Path.parse dir).segments →
      tree.MakesAlike dir) := by
  have hmade := tree.settled_makeDirAll dir
  obtain ⟨hsettled, hrefused, hcauses, halike⟩ := t.deliverAll_makeDirAll dir tree tables
  obtain ⟨hsettled', hrefused', hcauses', halike'⟩ := t.deliverAll_makeDirAll dir tree tables'
  obtain ⟨htree, hcausesAgain, hagain⟩ := t.deliverAll_again dir tree hnames
  refine ⟨fun place => ?_, fun o => ?_, htree, hcausesAgain, fun hmakes o => ?_, ?_, ?_⟩
  · show (t.deliverAll (.directory dir) tree tables).2.node? place =
      (t.deliverAll (.directory dir) tree tables').2.node? place
    by_cases hunits : t.units tables = []
    · rw [hrefused hunits, hrefused' ((Target.units_eq_nil_congr hsame).mp hunits)]
    · rw [hsettled hunits, hsettled' ((Target.units_eq_nil_congr hsame).not.mp hunits)]
      exact Target.node?_deliverAll_congr hmade hsame hnames place
  · rw [hcauses, hcauses', Target.outcomes_of_settled hmade, Target.outcomes_of_settled hmade]
    simp only [List.mem_map, exists_exists_and_eq_and, hsame]
  · rw [halike hmakes, halike' hmakes, Target.outcomes_of_settled hmade,
      Target.outcomes_of_settled hmade]
    simp only [List.mem_map, hsame]
  · constructor
    · intro hreport
      by_cases hunits : t.units tables = []
      · exact Or.inl hunits
      · exact Or.inr (Target.makesAlike_of_run_again hunits (congrArg Prod.fst hreport))
    · rintro (hunits | hmakes)
      · show t.run (.directory dir) (t.deliverAll (.directory dir) tree tables).2 tables = _
        rw [hrefused hunits]
      · exact congrArg (fun r : List Outcome × FileTree => (Report.of r.1, r.2)) (hagain hmakes)
  · rintro (hok | ⟨hclosed, hdots⟩)
    · exact FileTree.makesAlike_of_ok hok
    · exact hclosed.makesAlike hdots

theorem Target.namesApart_expr_stmt :
    defaultRust.NamesApart [.bare "Expr", .bare "Stmt"] := by
  have hstems : snakeCase "Expr" ≠ snakeCase "Stmt" := by decide +kernel
  intro a ha b hb u v hu hv hfile
  have hstem : snakeCase a.family = snakeCase b.family := (Target.fileName_eq_iff hu hv).mp hfile
  simp only [List.mem_cons, List.not_mem_nil, or_false] at ha hb
  rcases ha with rfl | rfl <;> rcases hb with rfl | rfl
  · rfl
  · exact absurd hstem hstems
  · exact absurd hstem.symm hstems
  · rfl

/-- Two tables, and the same tables in another order with one of them twice, in a directory that can
    be made. -/
theorem Target.order_free_expr_stmt :
    defaultRust.NamesApart [.bare "Expr", .bare "Stmt"] ∧
    (∀ place, (defaultRust.run (.directory "out") .empty
      [.bare "Expr", .bare "Stmt"]).2.node? place =
        (defaultRust.run (.directory "out") .empty
          [.bare "Stmt", .bare "Expr", .bare "Stmt"]).2.node? place) ∧
    defaultRust.run (.directory "out")
      (defaultRust.run (.directory "out") .empty [.bare "Expr", .bare "Stmt"]).2
        [.bare "Expr", .bare "Stmt"] =
          defaultRust.run (.directory "out") .empty [.bare "Expr", .bare "Stmt"] := by
  have hsame : ∀ table, table ∈ [Table.bare "Expr", .bare "Stmt"] ↔
      table ∈ [Table.bare "Stmt", .bare "Expr", .bare "Stmt"] := by
    intro table
    simp only [List.mem_cons, List.not_mem_nil, or_false]
    tauto
  have hmade : (FileTree.empty.makeDirAll "out").1 = .ok () := by decide +kernel
  obtain ⟨htree, -, -, -, -, hagain, halike⟩ :=
    defaultRust.order_free "out" .empty hsame namesApart_expr_stmt
  exact ⟨namesApart_expr_stmt, htree, hagain.mpr (Or.inr (halike (Or.inl hmade)))⟩

/-- The first attempt makes `a`, where the path turns back, and then finds that `f` is there already;
    all others follow the path as far as `f` and find that it is no directory. -/
theorem Target.run_again_differs :
    let tree : FileTree := .ofList [("f", some "text".toUTF8)]
    let outlet := Outlet.directory "a/../f/x"
    let expr := Table.bare "Expr"
    let stmt := Table.bare "Stmt"
    defaultRust.NamesApart [expr, stmt] ∧
    (defaultRust.run outlet tree [expr, stmt]).1 =
      ⟨[], [⟨"Expr", .unwritten "expr.rs" .alreadyExists⟩,
        ⟨"Stmt", .unwritten "stmt.rs" .notADirectory⟩]⟩ ∧
    (defaultRust.run outlet tree [stmt, expr]).1 =
      ⟨[], [⟨"Stmt", .unwritten "stmt.rs" .alreadyExists⟩,
        ⟨"Expr", .unwritten "expr.rs" .notADirectory⟩]⟩ ∧
    (defaultRust.run outlet (defaultRust.run outlet tree [expr, stmt]).2 [expr, stmt]).1 =
      ⟨[], [⟨"Expr", .unwritten "expr.rs" .notADirectory⟩,
        ⟨"Stmt", .unwritten "stmt.rs" .notADirectory⟩]⟩ := by
  refine ⟨namesApart_expr_stmt, ?_, ?_, ?_⟩
  · decide +kernel
  · decide +kernel
  · decide +kernel

end VisitorGen
