import Mathlib.Data.List.Nodup
import Mathlib.Data.List.Pairwise
import VisitorGen.Table.Load

set_option autoImplicit false

/-! # What ends the loading of grammar files

The tables of a file are those of different families, because a repeated key takes the place of the
first one (`Json.families_nodup_of_readTables`). So loading succeeds exactly if each pattern stands
for some files, each file can be read, and no family stands in the files twice, and then gives the
tables of all files one after another (`Table.loadAll_eq_ok_iff`). Put the other way round, it fails
exactly at one of five faults (`Table.loadAll_error_iff`), wherever in the input this one is. -/

namespace VisitorGen

/-- The families that tables define, in order. -/
def Table.families (tables : List Table) : List String :=
  tables.map (·.family)

@[simp] theorem Table.families_nil : Table.families [] = [] := rfl

@[simp] theorem Table.families_cons (table : Table) (tables : List Table) :
    Table.families (table :: tables) = table.family :: Table.families tables := rfl

theorem Table.families_append (front back : List Table) :
    Table.families (front ++ back) = Table.families front ++ Table.families back :=
  List.map_append

/-! ## The tables of a file -/

namespace Json

/-- Putting a table in adds its family, unless it is there. -/
theorem families_putTable (t : Table) (tables : List Table) :
    Table.families (putTable t tables) =
      if t.family ∈ Table.families tables then Table.families tables
      else Table.families tables ++ [t.family] := by
  induction tables with
  | nil => simp [putTable]
  | cons u us ih =>
    rw [putTable]
    by_cases hu : u.family = t.family
    · simp [hu]
    · have hne : t.family ≠ u.family := Ne.symm hu
      rw [if_neg hu, Table.families_cons, ih]
      by_cases ht : t.family ∈ Table.families us
      · simp [ht]
      · simp [ht, hne]

theorem families_nodup_putTable {t : Table} {tables : List Table}
    (h : (Table.families tables).Nodup) : (Table.families (putTable t tables)).Nodup := by
  rw [families_putTable]
  by_cases ht : t.family ∈ Table.families tables
  · rwa [if_pos ht]
  · rw [if_neg ht, ← List.concat_eq_append]
    exact List.Nodup.concat ht h

theorem families_nodup_mergeEntries (entries : List Entry) :
    (Table.families (mergeEntries entries)).Nodup := by
  rw [mergeEntries]
  -- the fold starts from tables of different families, and each entry keeps them different
  suffices h : ∀ tables : List Table, (Table.families tables).Nodup →
      (Table.families (entries.foldl (fun tables e => putTable e.table tables) tables)).Nodup from
    h [] List.nodup_nil
  induction entries with
  | nil => exact fun tables h => h
  | cons e entries ih => exact fun tables h => ih _ (families_nodup_putTable h)

/-- A file defines each of its families once. -/
theorem families_nodup_of_readTables {text : String} {tables : List Table}
    (h : readTables text = .ok tables) : (Table.families tables).Nodup := by
  rw [readTables] at h
  split at h
  · exact absurd h (by simp)
  · rw [← Except.ok.inj h]
    exact families_nodup_mergeEntries _

end Json

/-! ## The files that patterns name -/

/-- The paths that a pattern stands for, none if it is malformed. -/
def Glob.pathsOf (t : FileTree) (pattern : String) : List String :=
  (Glob.expand t pattern).toOption.getD []

/-- The paths of the grammar files, in reading order. -/
def grammarPaths (t : FileTree) (patterns : List String) : List String :=
  patterns.flatMap (Glob.pathsOf t)

/-- The pattern is well formed and stands for at least one file. -/
def Glob.Matches (t : FileTree) (pattern : String) : Prop :=
  ∃ path more, Glob.expand t pattern = .ok (path :: more)

theorem expandPatterns_eq_ok_iff {t : FileTree} {patterns paths : List String} :
    expandPatterns t patterns = .ok paths ↔
      (∀ pattern ∈ patterns, Glob.Matches t pattern) ∧ paths = grammarPaths t patterns := by
  induction patterns generalizing paths with
  | nil => simp [expandPatterns, grammarPaths, eq_comm]
  | cons pattern patterns ih =>
    rw [expandPatterns, List.forall_mem_cons, grammarPaths, List.flatMap_cons, ← grammarPaths]
    cases hexpand : Glob.expand t pattern with
    | error e => simp [Glob.Matches, hexpand]
    | ok found =>
      cases found with
      | nil => simp [Glob.Matches, hexpand]
      | cons path more =>
        have hmatches : Glob.Matches t pattern := ⟨path, more, hexpand⟩
        have hpaths : Glob.pathsOf t pattern = path :: more := by
          rw [Glob.pathsOf, hexpand]
          rfl
        rw [hpaths]
        simp only [hmatches, true_and]
        cases hrest : expandPatterns t patterns with
        | error e =>
          have hnone : ¬ ∀ pattern ∈ patterns, Glob.Matches t pattern := fun hall =>
            absurd (hrest.symm.trans (ih.mpr ⟨hall, rfl⟩)) (by simp)
          simp [hnone]
        | ok rest =>
          obtain ⟨hall, rfl⟩ := ih.mp hrest
          simp only [Except.ok.injEq]
          exact ⟨fun h => ⟨hall, h.symm⟩, fun h => h.2.symm⟩

/-! ## The tables that files define -/

theorem eq_ok_of_toOption {α ε : Type} {x : Except ε α} {a : α} (h : x.toOption = some a) :
    x = .ok a := by
  cases x with
  | error e => simp [Except.toOption] at h
  | ok b => simpa [Except.toOption] using h

/-- The tables of the file at a path, none if it cannot be read. -/
def tablesAt (t : FileTree) (path : String) : List Table :=
  (readGrammar t path).toOption.getD []

/-- The tables of the files at some paths, one file after another. -/
def tablesIn (t : FileTree) (paths : List String) : List Table :=
  paths.flatMap (tablesAt t)

/-- The file at a path can be read as a grammar. -/
def IsGrammar (t : FileTree) (path : String) : Prop :=
  ∃ tables, readGrammar t path = .ok tables

theorem readGrammar_eq_ok_iff {t : FileTree} {path : String} {tables : List Table} :
    readGrammar t path = .ok tables ↔
      ∃ text, t.readText path = .ok text ∧ Json.readTables text = .ok tables := by
  rw [readGrammar]
  cases t.readText path with
  | error cause => simp
  | ok text =>
    cases htables : Json.readTables text <;> simp [htables]

theorem tablesAt_eq {t : FileTree} {path : String} {tables : List Table}
    (h : readGrammar t path = .ok tables) : tablesAt t path = tables := by
  rw [tablesAt, h]
  rfl

theorem families_nodup_tablesAt (t : FileTree) (path : String) :
    (Table.families (tablesAt t path)).Nodup := by
  cases hread : readGrammar t path with
  | error e =>
    rw [tablesAt, hread]
    exact List.nodup_nil
  | ok tables =>
    obtain ⟨text, -, htables⟩ := readGrammar_eq_ok_iff.mp hread
    rw [tablesAt_eq hread]
    exact Json.families_nodup_of_readTables htables

/-- A file that can be read without being a grammar, or not at all, is none. -/
theorem not_isGrammar_iff {t : FileTree} {path : String} : ¬ IsGrammar t path ↔
    (∃ cause, t.readText path = .error cause) ∨
      ∃ text cause, t.readText path = .ok text ∧ Json.readTables text = .error cause := by
  simp only [IsGrammar, readGrammar_eq_ok_iff]
  cases t.readText path with
  | error cause => simp
  | ok text =>
    cases htables : Json.readTables text <;> simp [htables]

/-- The first table of a family that an earlier table has ends the addition. -/
theorem addTables_cons (path : String) (earlier : List Table) (table : Table)
    (tables : List Table) : addTables path earlier (table :: tables) =
      if table.family ∈ Table.families earlier then .error (.redefined table.family path)
      else addTables path (earlier ++ [table]) tables := by
  have hany : earlier.any (·.family = table.family) = true ↔
      table.family ∈ Table.families earlier := by
    simp [Table.families]
  rw [addTables]
  simp only [hany]

/-- Tables are put behind earlier ones exactly if no family comes twice then. -/
theorem addTables_eq_ok_iff {path : String} {earlier tables all : List Table}
    (h : (Table.families earlier).Nodup) : addTables path earlier tables = .ok all ↔
      all = earlier ++ tables ∧ (Table.families (earlier ++ tables)).Nodup := by
  induction tables generalizing earlier with
  | nil =>
    rw [addTables, List.append_nil]
    simp [h, eq_comm]
  | cons table tables ih =>
    have hsplit : earlier ++ table :: tables = earlier ++ [table] ++ tables := by simp
    rw [addTables_cons, hsplit]
    by_cases hearlier : table.family ∈ Table.families earlier
    · -- the family is defined twice, whatever comes behind
      have hdouble : ¬ (Table.families (earlier ++ [table] ++ tables)).Nodup := by
        rw [Table.families_append, Table.families_append]
        intro hnodup
        have hfront := (List.nodup_append.mp (List.nodup_append.mp hnodup).1).2.2
        exact hfront _ hearlier _ List.mem_cons_self rfl
      rw [if_pos hearlier]
      exact ⟨fun hadd => absurd hadd (by simp), fun hall => absurd hall.2 hdouble⟩
    · have hfront : (Table.families (earlier ++ [table])).Nodup := by
        rw [Table.families_append, Table.families_cons, Table.families_nil,
          ← List.concat_eq_append]
        exact List.Nodup.concat hearlier h
      rw [if_neg hearlier, ih hfront]

/-- Files are read behind earlier tables exactly if each is a grammar and no family comes twice. -/
theorem readGrammars_eq_ok_iff {t : FileTree} {earlier all : List Table} {paths : List String}
    (h : (Table.families earlier).Nodup) : readGrammars t earlier paths = .ok all ↔
      (∀ path ∈ paths, IsGrammar t path) ∧ all = earlier ++ tablesIn t paths ∧
        (Table.families (earlier ++ tablesIn t paths)).Nodup := by
  induction paths generalizing earlier with
  | nil =>
    rw [readGrammars, tablesIn, List.flatMap_nil, List.append_nil]
    simp [h, eq_comm]
  | cons path paths ih =>
    rw [readGrammars, tablesIn, List.flatMap_cons, ← tablesIn, ← List.append_assoc,
      List.forall_mem_cons]
    cases hread : readGrammar t path with
    | error e => simp [IsGrammar, hread]
    | ok tables =>
      have hgrammar : IsGrammar t path := ⟨tables, hread⟩
      rw [tablesAt_eq hread]
      simp only [hgrammar, true_and]
      by_cases hnodup : (Table.families (earlier ++ tables)).Nodup
      · rw [(addTables_eq_ok_iff h).mpr ⟨rfl, hnodup⟩]
        exact ih hnodup
      · -- a family that comes twice by now also comes twice in the end
        have hdouble : ¬ (Table.families (earlier ++ tables ++ tablesIn t paths)).Nodup := by
          rw [Table.families_append]
          exact fun hall => hnodup (List.nodup_append.mp hall).1
        cases hadd : addTables path earlier tables with
        | error e =>
          exact ⟨fun h => absurd h (by simp), fun hall => absurd hall.2.2 hdouble⟩
        | ok together => exact absurd ((addTables_eq_ok_iff h).mp hadd).2 hnodup

/-- **When loading succeeds.** Each pattern must stand for some files, each file must be a grammar,
    and no family may be defined twice; the tables are then those of all files, in reading order. -/
theorem Table.loadAll_eq_ok_iff {t : FileTree} {patterns : List String} {tables : List Table} :
    Table.loadAll t patterns = .ok tables ↔
      (∀ pattern ∈ patterns, Glob.Matches t pattern) ∧
      (∀ path ∈ grammarPaths t patterns, IsGrammar t path) ∧
      tables = tablesIn t (grammarPaths t patterns) ∧ (Table.families tables).Nodup := by
  rw [loadAll]
  cases hexpand : expandPatterns t patterns with
  | error e =>
    have hnone : ¬ ∀ pattern ∈ patterns, Glob.Matches t pattern := fun hall =>
      absurd (hexpand.symm.trans (expandPatterns_eq_ok_iff.mpr ⟨hall, rfl⟩)) (by simp)
    simp [hnone]
  | ok paths =>
    obtain ⟨hall, rfl⟩ := expandPatterns_eq_ok_iff.mp hexpand
    have hread := @readGrammars_eq_ok_iff t [] tables (grammarPaths t patterns) List.nodup_nil
    rw [List.nil_append] at hread
    simp only [hread]
    constructor
    · rintro ⟨hpaths, rfl, hnodup⟩
      exact ⟨hall, hpaths, rfl, hnodup⟩
    · rintro ⟨-, hpaths, rfl, hnodup⟩
      exact ⟨hpaths, rfl, hnodup⟩

/-! ## Faults -/

/-- A fault in the patterns or in the files that they name. A file that is named twice redefines its
    families. -/
inductive LoadFault (t : FileTree) (patterns : List String) : Prop where
  | badPattern {pattern : String} {cause : Glob.PatternError} (mem : pattern ∈ patterns)
      (expand : Glob.expand t pattern = .error cause)
  | noMatch {pattern : String} (mem : pattern ∈ patterns) (expand : Glob.expand t pattern = .ok [])
  | unreadable {path : String} {cause : IoError} (mem : path ∈ grammarPaths t patterns)
      (read : t.readText path = .error cause)
  | malformed {path text : String} {cause : Json.ReadError} (mem : path ∈ grammarPaths t patterns)
      (read : t.readText path = .ok text) (tables : Json.readTables text = .error cause)
  | redefined {earlier later family : String}
      (order : [earlier, later].Sublist (grammarPaths t patterns))
      (first : family ∈ Table.families (tablesAt t earlier))
      (again : family ∈ Table.families (tablesAt t later))

theorem LoadFault.of_not_matches {t : FileTree} {patterns : List String} {pattern : String}
    (hmem : pattern ∈ patterns) (h : ¬ Glob.Matches t pattern) : LoadFault t patterns := by
  cases hexpand : Glob.expand t pattern with
  | error cause => exact .badPattern hmem hexpand
  | ok found =>
    cases found with
    | nil => exact .noMatch hmem hexpand
    | cons path more => exact absurd ⟨path, more, hexpand⟩ h

theorem LoadFault.of_not_isGrammar {t : FileTree} {patterns : List String} {path : String}
    (hmem : path ∈ grammarPaths t patterns) (h : ¬ IsGrammar t path) : LoadFault t patterns := by
  rcases not_isGrammar_iff.mp h with ⟨cause, hread⟩ | ⟨text, cause, hread, htables⟩
  · exact .unreadable hmem hread
  · exact .malformed hmem hread htables

theorem families_tablesIn (t : FileTree) (paths : List String) :
    Table.families (tablesIn t paths) = paths.flatMap fun path => Table.families (tablesAt t path) :=
  List.map_flatMap

/-- The families of files differ exactly if no two files share one. -/
theorem families_nodup_tablesIn_iff {t : FileTree} {paths : List String} :
    (Table.families (tablesIn t paths)).Nodup ↔
      ∀ {earlier later}, [earlier, later].Sublist paths →
        (Table.families (tablesAt t earlier)).Disjoint (Table.families (tablesAt t later)) := by
  rw [families_tablesIn, List.nodup_flatMap, List.pairwise_iff_forall_sublist]
  exact ⟨fun h => h.2, fun h => ⟨fun path _ => families_nodup_tablesAt t path, h⟩⟩

/-- **When loading fails.** It does so exactly at one of the faults, however many files have been
    read before. -/
theorem Table.loadAll_error_iff {t : FileTree} {patterns : List String} :
    (∃ e, Table.loadAll t patterns = .error e) ↔ LoadFault t patterns := by
  have hok := @Table.loadAll_eq_ok_iff t patterns
  constructor
  · rintro ⟨e, he⟩
    by_contra hfault
    have hload : Table.loadAll t patterns = .ok (tablesIn t (grammarPaths t patterns)) := by
      refine hok.mpr ⟨fun pattern hmem => ?_, fun path hmem => ?_, rfl, ?_⟩
      · exact by_contra fun h => hfault (.of_not_matches hmem h)
      · exact by_contra fun h => hfault (.of_not_isGrammar hmem h)
      · refine families_nodup_tablesIn_iff.mpr fun horder family hfirst hagain => ?_
        exact hfault (.redefined horder hfirst hagain)
    exact absurd (hload.symm.trans he) (by simp)
  · intro hfault
    cases hload : Table.loadAll t patterns with
    | error e => exact ⟨e, rfl⟩
    | ok tables =>
      obtain ⟨hmatches, hgrammars, rfl, hnodup⟩ := hok.mp hload
      exfalso
      cases hfault with
      | badPattern hmem hexpand =>
        obtain ⟨path, more, hfound⟩ := hmatches _ hmem
        exact absurd (hexpand.symm.trans hfound) (by simp)
      | noMatch hmem hexpand =>
        obtain ⟨path, more, hfound⟩ := hmatches _ hmem
        exact absurd (hexpand.symm.trans hfound) (by simp)
      | unreadable hmem hread =>
        exact not_isGrammar_iff.mpr (.inl ⟨_, hread⟩) (hgrammars _ hmem)
      | malformed hmem hread htables =>
        exact not_isGrammar_iff.mpr (.inr ⟨_, _, hread, htables⟩) (hgrammars _ hmem)
      | redefined horder hfirst hagain =>
        exact families_nodup_tablesIn_iff.mp hnodup horder hfirst hagain

end VisitorGen
