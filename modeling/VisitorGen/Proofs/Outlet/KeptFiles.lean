import Mathlib.Data.List.Nodup
import VisitorGen.Proofs.Batch
import VisitorGen.Proofs.Outlet.Directory
import VisitorGen.Proofs.Target.FileName

set_option autoImplicit false

/-! # Which files a run keeps

After a run into a directory each file holds the source of the last unit that was written under its
name. So the files of all tables that are reported as written are kept exactly if no two of them
share a file name, which can happen in Rust alone (`Target.files_kept_iff`), and does
(`Target.file_lost`). -/

namespace VisitorGen

variable {t : Target} {dir : String}

/-! ## Runs -/

theorem Target.isPlain_of_mem_units {tables : List Table} :
    ∀ u ∈ t.units tables, Path.IsPlain u.fileName := by
  intro u hu
  obtain ⟨table, -, hgen⟩ := Target.mem_units_iff.mp hu
  exact Target.isPlain_fileName hgen

/-- A run keeps the files that it does not write. -/
theorem Target.readFile_deliverAll {tree : FileTree} {tables : List Table} {name : String}
    {content : ByteArray} (hname : Path.IsPlain name)
    (hnot : name ∉ (Report.of (t.deliverAll (.directory dir) tree tables).1).written)
    (hread : tree.readFile (Path.join dir name) = .ok content) :
    (t.deliverAll (.directory dir) tree tables).2.readFile (Path.join dir name) = .ok content := by
  obtain ⟨hstate, hwritten, -⟩ := t.run_eq_writeAll (.directory dir) tree tables
  have hfinal : (t.deliverAll (.directory dir) tree tables).2 =
      ((Outlet.directory dir).writeAll tree (t.units tables)).2 := hstate
  have hnot' : name ∉ ((Outlet.directory dir).written tree (t.units tables)).map (·.fileName) := by
    rwa [← hwritten]
  rw [hfinal]
  exact Outlet.readFile_writeAll hname Target.isPlain_of_mem_units hnot' hread

/-- The file of a unit holds its source after the run, if no later unit is written under its
    name. -/
theorem Target.readFile_of_deliver {tree : FileTree} {table : Table} {tables : List Table}
    {u : SourceUnit} (hu : (t.deliver (.directory dir) tree table).1 = .ok u)
    (hnot : u.fileName ∉ (Report.of (t.deliverAll (.directory dir)
      (t.deliver (.directory dir) tree table).2 tables).1).written) :
    (t.deliverAll (.directory dir) (t.deliver (.directory dir) tree table).2 tables).2.readFile
      (u.pathIn dir) = .ok u.source.toUTF8 := by
  obtain ⟨hgen, hwrite⟩ := Target.deliver_eq_ok hu
  exact Target.readFile_deliverAll (Target.isPlain_fileName hgen) hnot
    (Outlet.readFile_of_directory_write hwrite)

/-- Among the units written under one name there is one whose source the file holds. -/
theorem Target.exists_unit_of_written {tree : FileTree} {tables : List Table} {name : String}
    (h : name ∈ (Report.of (t.deliverAll (.directory dir) tree tables).1).written) :
    ∃ o ∈ (t.deliverAll (.directory dir) tree tables).1, ∃ u, o.result = .ok u ∧
      u.fileName = name ∧ (t.deliverAll (.directory dir) tree tables).2.readFile
        (Path.join dir name) = .ok u.source.toUTF8 := by
  induction tables generalizing tree with
  | nil => simp [deliverAll, Report.of] at h
  | cons table tables ih =>
    rw [deliverAll_cons] at h ⊢
    by_cases hlater : name ∈ (Report.of (t.deliverAll (.directory dir)
        (t.deliver (.directory dir) tree table).2 tables).1).written
    · obtain ⟨o, ho, hu⟩ := ih hlater
      exact ⟨o, List.mem_cons_of_mem _ ho, hu⟩
    · -- nothing later goes by the name, so this table wrote the file and the rest keeps it
      rw [Report.of_cons, Report.written_append, List.mem_append] at h
      obtain ⟨o, ho, u, hu, rfl⟩ := Report.mem_written_of.mp (h.resolve_right hlater)
      rw [List.mem_singleton] at ho
      subst ho
      exact ⟨_, List.mem_cons_self, u, hu, rfl, Target.readFile_of_deliver hu hlater⟩

/-! ## Lost files -/

/-- The file of the unit holds its source. -/
def SourceUnit.IsStored (u : SourceUnit) (tree : FileTree) (dir : String) : Prop :=
  tree.readFile (u.pathIn dir) = .ok u.source.toUTF8

theorem SourceUnit.source_eq_of_isStored {u v : SourceUnit} {tree : FileTree}
    (hu : u.IsStored tree dir) (hv : v.IsStored tree dir) (hfile : u.fileName = v.fileName) :
    u.source = v.source := by
  rw [IsStored, pathIn] at hu hv
  rw [hfile, hv, Except.ok.injEq] at hu
  exact String.toByteArray_inj.mp hu.symm

/-- The file of a unit holds its source after a run exactly if no later family was written under
    its name. -/
theorem Target.isStored_iff {tree : FileTree} {tables : List Table}
    (hdistinct : (tables.map (·.family)).Nodup) {front back : List Outcome} {o : Outcome}
    (hsplit : (t.deliverAll (.directory dir) tree tables).1 = front ++ o :: back) {u : SourceUnit}
    (hu : o.result = .ok u) :
    u.IsStored (t.deliverAll (.directory dir) tree tables).2 dir ↔
      u.fileName ∉ (Report.of back).written := by
  obtain ⟨tree', rest, hresult, rfl, htree⟩ := Target.exists_of_deliverAll_eq hsplit
  rw [hu] at hresult
  constructor
  · -- if the name came again, the file would hold the source of another family
    intro hstored hlater
    obtain ⟨o', ho', v, hv, hfile, hread⟩ := Target.exists_unit_of_written hlater
    rw [htree, ← hfile] at hread
    have hgen : t.generate o.table.family o.table.rules = .ok u :=
      Target.generate_of_mem_deliverAll (by rw [hsplit]; simp) hu
    have hgen' : t.generate o'.table.family o'.table.rules = .ok v :=
      Target.generate_of_mem_deliverAll ho' hv
    have hne := Target.family_ne_of_deliverAll_eq hdistinct hsplit o' ho'
    exact Target.source_ne hgen hgen' hne hfile.symm
      (SourceUnit.source_eq_of_isStored hstored hread hfile.symm)
  · intro hnot
    have hread := Target.readFile_of_deliver hresult hnot
    rwa [htree] at hread

/-- A run keeps the files of all tables that it has written exactly if their names differ. -/
theorem Target.all_isStored_iff {tree : FileTree} {tables : List Table}
    (hdistinct : (tables.map (·.family)).Nodup) :
    (∀ o ∈ (t.deliverAll (.directory dir) tree tables).1, ∀ u, o.result = .ok u →
      u.IsStored (t.deliverAll (.directory dir) tree tables).2 dir) ↔
      (Report.of (t.deliverAll (.directory dir) tree tables).1).written.Nodup := by
  rw [Report.of, nodup_filterMap_iff]
  constructor
  · intro h front o back hsplit file hfile
    obtain ⟨u, hu, rfl⟩ := Outcome.written?_eq_some_iff.mp hfile
    exact (Target.isStored_iff hdistinct hsplit hu).mp (h o (by rw [hsplit]; simp) u hu)
  · intro h o ho u hu
    obtain ⟨front, back, hsplit⟩ := List.append_of_mem ho
    refine (Target.isStored_iff hdistinct hsplit hu).mpr (h front o back hsplit u.fileName ?_)
    exact Outcome.written?_eq_some_iff.mpr ⟨u, hu, rfl⟩

theorem Target.nodup_writtenFamilies (t : Target) (dir : String) (tree : FileTree)
    {tables : List Table} (hdistinct : (tables.map (·.family)).Nodup) :
    ((t.deliverAll (.directory dir) tree tables).1.filterMap Outcome.writtenFamily?).Nodup := by
  rw [nodup_filterMap_iff]
  intro front o back hsplit family hfamily hlater
  obtain ⟨o', ho', hfamily'⟩ := List.mem_filterMap.mp hlater
  obtain ⟨-, -, rfl⟩ := Outcome.writtenFamily?_eq_some_iff.mp hfamily
  obtain ⟨-, -, heq⟩ := Outcome.writtenFamily?_eq_some_iff.mp hfamily'
  exact Target.family_ne_of_deliverAll_eq hdistinct hsplit o' ho' heq.symm

theorem Target.written_eq_map {tree : FileTree} {tables : List Table} :
    (Report.of (t.deliverAll (.directory dir) tree tables).1).written =
      ((t.deliverAll (.directory dir) tree tables).1.filterMap Outcome.writtenFamily?).map
        fun family => t.language.fileStem family ++ t.language.fileExtension := by
  rw [Report.of, List.map_filterMap]
  refine List.filterMap_congr fun o ho => ?_
  rw [Outcome.written?, Outcome.writtenFamily?]
  cases hresult : o.result with
  | error e => rfl
  | ok u => simp [Target.fileName_of_generate (Target.generate_of_mem_deliverAll ho hresult)]

/-- Only in Rust can two families meet in a file name. -/
theorem Target.nodup_written_iff {tree : FileTree} {tables : List Table}
    (hdistinct : (tables.map (·.family)).Nodup) :
    (Report.of (t.deliverAll (.directory dir) tree tables).1).written.Nodup ↔
      (t.language = .rust → (((t.deliverAll (.directory dir) tree tables).1.filterMap
        Outcome.writtenFamily?).map snakeCase).Nodup) := by
  have hfamilies := t.nodup_writtenFamilies dir tree hdistinct
  rw [Target.written_eq_map]
  cases t with
  | csharp o =>
    constructor
    · intro _ hrust
      simp [language] at hrust
    · intro _
      exact hfamilies.map (append_injective ".cs")
  | rust o =>
    have hmap : ∀ families : List String, (families.map fun family =>
        (Target.rust o).language.fileStem family ++ (Target.rust o).language.fileExtension) =
          (families.map snakeCase).map fun stem => stem ++ ".rs" := by
      intro families
      rw [List.map_map]
      rfl
    rw [hmap, List.nodup_map_iff (append_injective ".rs")]
    simp [language]

/-- **Which files a run keeps.** If the families of the tables differ, the file of a unit holds its
    source after the run exactly if no later family was written under its name. So all files are
    kept, in C# always, and in Rust exactly if the families written differ even in snake case,
    because that is what their file names show of them. -/
theorem Target.files_kept_iff (t : Target) (dir : String) (tree : FileTree) (tables : List Table)
    (hdistinct : (tables.map (·.family)).Nodup) :
    (∀ front o back u, (t.deliverAll (.directory dir) tree tables).1 = front ++ o :: back →
      o.result = .ok u → (u.IsStored (t.deliverAll (.directory dir) tree tables).2 dir ↔
        u.fileName ∉ (Report.of back).written)) ∧
    ((∀ o ∈ (t.deliverAll (.directory dir) tree tables).1, ∀ u, o.result = .ok u →
      u.IsStored (t.deliverAll (.directory dir) tree tables).2 dir) ↔
        (t.language = .rust → (((t.deliverAll (.directory dir) tree tables).1.filterMap
          Outcome.writtenFamily?).map snakeCase).Nodup)) ∧
    ∀ (a b : Table) (u v : SourceUnit), t.generate a.family a.rules = .ok u →
      t.generate b.family b.rules = .ok v →
        (u.fileName = v.fileName ↔ t.language.fileStem a.family = t.language.fileStem b.family) := by
  refine ⟨fun front o back u hsplit hu => ?_, ?_, fun a b u v hu hv => ?_⟩
  · exact Target.isStored_iff hdistinct hsplit hu
  · rw [Target.all_isStored_iff hdistinct, Target.nodup_written_iff hdistinct]
  · exact Target.fileName_eq_iff hu hv

/-- The Rust target with the derives that it has by default. -/
def Target.defaultRust : Target :=
  .rust ⟨Rust.defaultDerives⟩

/-- A table without variants. -/
def Table.bare (family : String) : Table :=
  ⟨family, []⟩

/-- Both files are kept if the snake cases differ. -/
theorem Target.files_kept_expr_stmt :
    ([Table.bare "Expr", Table.bare "Stmt"].map (·.family)).Nodup ∧
    ∀ o ∈ (defaultRust.deliverAll (.directory "out") .empty [.bare "Expr", .bare "Stmt"]).1, ∀ u,
      o.result = .ok u → u.IsStored (defaultRust.deliverAll (.directory "out") .empty
        [.bare "Expr", .bare "Stmt"]).2 "out" := by
  have hdistinct : ([Table.bare "Expr", Table.bare "Stmt"].map (·.family)).Nodup := by decide
  obtain ⟨-, hkept, -⟩ := defaultRust.files_kept_iff "out" .empty _ hdistinct
  refine ⟨hdistinct, hkept.mpr fun _ => ?_⟩
  decide +kernel

/-- Two families that differ in case alone are reported as written, but their common file does not
    hold the sources of both. -/
theorem Target.file_lost :
    ([Table.bare "IOExpr", Table.bare "IoExpr"].map (·.family)).Nodup ∧
    (defaultRust.run (.directory "out") .empty [.bare "IOExpr", .bare "IoExpr"]).1 =
      ⟨["io_expr.rs", "io_expr.rs"], []⟩ ∧
    ¬ ∀ o ∈ (defaultRust.deliverAll (.directory "out") .empty
        [.bare "IOExpr", .bare "IoExpr"]).1, ∀ u, o.result = .ok u →
      u.IsStored (defaultRust.deliverAll (.directory "out") .empty
        [.bare "IOExpr", .bare "IoExpr"]).2 "out" := by
  have hreport : (defaultRust.run (.directory "out") .empty
      [.bare "IOExpr", .bare "IoExpr"]).1 = ⟨["io_expr.rs", "io_expr.rs"], []⟩ := by
    decide +kernel
  refine ⟨by decide, hreport, ?_⟩
  have hwritten := congrArg Report.written hreport
  rw [run] at hwritten
  rw [Target.all_isStored_iff (by decide), hwritten]
  decide

end VisitorGen
