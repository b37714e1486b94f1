import VisitorGen.Proofs.FileTree.PathOrder
import VisitorGen.Proofs.First
import VisitorGen.Proofs.Table.Load

set_option autoImplicit false

/-! # Grammar files in reading order

The files that patterns name have an order: that of the patterns and, for one pattern, that of the
paths (`grammarPaths_eq_flatten`). Each file is read, understood and put behind the earlier ones
before the next one is looked at. So a file is *at fault* or not as a matter of this file and those
before it (`FileFault`), and the first one at fault ends the loading, whatever comes behind it
(`readGrammars_of_first_fault`). -/

namespace VisitorGen

/-! ## The reading order -/

/-- The paths are those that the pattern stands for, and none stands behind a greater one. -/
structure Glob.Lists (t : FileTree) (pattern : String) (paths : List String) : Prop where
  found : ∃ s, Search.of pattern = .ok s ∧
    paths.Perm (expandFrom t s.directoriesOnly s.segments s.start)
  sorted : paths.Pairwise fun a b => (Path.parse b).lt (Path.parse a) = false

theorem Glob.lists_of_expand {t : FileTree} {pattern : String} {paths : List String}
    (h : Glob.expand t pattern = .ok paths) : Glob.Lists t pattern paths := by
  rw [expand] at h
  cases hsearch : Search.of pattern with
  | error e => simp [hsearch, Except.map] at h
  | ok s =>
    obtain rfl : sortPaths (expandFrom t s.directoriesOnly s.segments s.start) = paths := by
      simpa [hsearch, Except.map] using h
    exact ⟨⟨s, hsearch, sortPaths_perm _⟩, sortPaths_pairwise _⟩

variable {t : FileTree}

/-- The files are read pattern by pattern, and for one pattern in the order of their paths. -/
theorem grammarPaths_eq_flatten {patterns : List String}
    (h : ∀ pattern ∈ patterns, Glob.Matches t pattern) :
    ∃ listings, List.Forall₂ (Glob.Lists t) patterns listings ∧
      grammarPaths t patterns = listings.flatten := by
  refine ⟨patterns.map (Glob.pathsOf t), ?_, List.flatMap_def⟩
  rw [List.forall₂_map_right_iff, List.forall₂_same]
  intro pattern hmem
  obtain ⟨path, more, hexpand⟩ := h pattern hmem
  have hpaths : Glob.pathsOf t pattern = path :: more := by
    rw [Glob.pathsOf, hexpand]
    rfl
  rw [hpaths]
  exact Glob.lists_of_expand hexpand

/-! ## Files at fault -/

/-- The file at `path` defines `family`, which one of the files before it has defined, and no table
    of the file before this one is such a redefinition. -/
def Redefines (t : FileTree) (earlier : List String) (path family : String) : Prop :=
  ∃ front table back, tablesAt t path = front ++ table :: back ∧ table.family = family ∧
    family ∈ Table.families (tablesIn t earlier) ∧
      ∀ other ∈ front, other.family ∉ Table.families (tablesIn t earlier)

/-- What is wrong with the file at `path` behind the files `earlier`. -/
inductive FileFault (t : FileTree) (earlier : List String) (path : String) : LoadError → Prop
  | unreadable {cause : IoError} (read : t.readText path = .error cause) :
    FileFault t earlier path (.unreadable path cause)
  | malformed {text : String} {cause : Json.ReadError} (read : t.readText path = .ok text)
    (tables : Json.readTables text = .error cause) :
    FileFault t earlier path (.malformed path cause)
  | redefined {family : String} (read : IsGrammar t path)
    (again : Redefines t earlier path family) :
    FileFault t earlier path (.redefined family path)

/-- The file at `path` is at fault behind the files `earlier`. -/
def AtFault (t : FileTree) (earlier : List String) (path : String) : Prop :=
  ∃ e, FileFault t earlier path e

/-- No file defines a family of the other one. -/
def SharesNoFamily (t : FileTree) (path path' : String) : Prop :=
  (Table.families (tablesAt t path)).Disjoint (Table.families (tablesAt t path'))

theorem tablesIn_concat (paths : List String) (path : String) :
    tablesIn t (paths ++ [path]) = tablesIn t paths ++ tablesAt t path := by
  simp [tablesIn]

/-- Tables have a first one that redefines a family, or none. -/
theorem exists_redefines {earlier : List String} {path : String} {table : Table}
    (hmem : table ∈ tablesAt t path)
    (h : table.family ∈ Table.families (tablesIn t earlier)) :
    ∃ family, Redefines t earlier path family := by
  have hfault : ¬ NoFaultIn (fun _ other => other.family ∈ Table.families (tablesIn t earlier))
      (tablesAt t path) := by
    intro hnone
    obtain ⟨front, back, hsplit⟩ := List.append_of_mem hmem
    exact hnone front table back hsplit h
  obtain ⟨front, first, back, hsplit, hfront, hfirst⟩ := exists_first_fault hfault
  refine ⟨first.family, front, first, back, hsplit, rfl, hfirst, fun other hother => ?_⟩
  obtain ⟨before, after, rfl⟩ := List.append_of_mem hother
  exact hfront before other after rfl

/-- All that can be wrong with a grammar is a family of an earlier file. -/
theorem FileFault.redefines_of_isGrammar {earlier : List String} {path : String} {e : LoadError}
    (h : FileFault t earlier path e) (hgrammar : IsGrammar t path) :
    ∃ family, e = .redefined family path ∧ Redefines t earlier path family := by
  cases h with
  | unreadable hread => exact absurd hgrammar (not_isGrammar_iff.mpr (.inl ⟨_, hread⟩))
  | malformed hread htables =>
    exact absurd hgrammar (not_isGrammar_iff.mpr (.inr ⟨_, _, hread, htables⟩))
  | redefined _ hagain => exact ⟨_, rfl, hagain⟩

/-- A file that is not at fault is a grammar, and its families are new. -/
theorem not_atFault_iff {earlier : List String} {path : String} :
    ¬ AtFault t earlier path ↔ IsGrammar t path ∧
      ∀ table ∈ tablesAt t path, table.family ∉ Table.families (tablesIn t earlier) := by
  constructor
  · intro h
    have hgrammar : IsGrammar t path := by
      by_contra hnot
      rcases not_isGrammar_iff.mp hnot with ⟨cause, hread⟩ | ⟨text, cause, hread, htables⟩
      · exact h ⟨_, .unreadable hread⟩
      · exact h ⟨_, .malformed hread htables⟩
    refine ⟨hgrammar, fun table hmem hearlier => ?_⟩
    obtain ⟨family, hagain⟩ := exists_redefines hmem hearlier
    exact h ⟨_, .redefined hgrammar hagain⟩
  · rintro ⟨hgrammar, hnew⟩ ⟨e, hfault⟩
    obtain ⟨family, -, front, table, back, hsplit, rfl, hearlier, -⟩ :=
      hfault.redefines_of_isGrammar hgrammar
    exact hnew table (by simp [hsplit]) hearlier

/-! ## Reading file after file -/

/-- Tables of new families are put behind the earlier ones, and the others come next. -/
theorem addTables_append {path : String} {earlier front : List Table}
    (hnew : ∀ table ∈ front, table.family ∉ Table.families earlier)
    (hnodup : (Table.families front).Nodup) (back : List Table) :
    addTables path earlier (front ++ back) = addTables path (earlier ++ front) back := by
  induction front generalizing earlier with
  | nil => rw [List.nil_append, List.append_nil]
  | cons table front ih =>
    rw [List.forall_mem_cons] at hnew
    rw [Table.families_cons, List.nodup_cons] at hnodup
    have hrest : ∀ other ∈ front, other.family ∉ Table.families (earlier ++ [table]) := by
      intro other hmem
      rw [Table.families_append, List.mem_append, not_or]
      refine ⟨hnew.2 other hmem, fun heq => hnodup.1 ?_⟩
      rw [Table.families_cons, Table.families_nil, List.mem_singleton] at heq
      rw [← heq]
      exact List.mem_map_of_mem hmem
    rw [List.cons_append, addTables_cons, if_neg hnew.1, ih hrest hnodup.2, List.append_assoc,
      List.singleton_append]

variable {front : List String} {path : String} {e : LoadError}

/-- A file at fault ends the loading, whatever files follow. -/
theorem readGrammars_cons_of_fault (h : FileFault t front path e) (paths : List String) :
    readGrammars t (tablesIn t front) (path :: paths) = .error e := by
  cases h with
  | unreadable hread => simp [readGrammars, readGrammar, hread]
  | malformed hread htables => simp [readGrammars, readGrammar, hread, htables]
  | redefined hgrammar hagain =>
    obtain ⟨tables, hread⟩ := hgrammar
    obtain ⟨before, table, after, hsplit, rfl, hearlier, hfirst⟩ := hagain
    have hnodup : (Table.families before).Nodup := by
      have hall := families_nodup_tablesAt t path
      rw [hsplit, Table.families_append] at hall
      exact (List.nodup_append.mp hall).1
    have hadd : addTables path (tablesIn t front) (before ++ table :: after) =
        .error (.redefined table.family path) := by
      rw [addTables_append hfirst hnodup, addTables_cons, if_pos]
      rw [Table.families_append]
      exact List.mem_append_left _ hearlier
    rw [tablesAt_eq hread] at hsplit
    simp only [readGrammars, hread, hsplit, hadd]

/-- Behind a file that is not at fault the loading goes on with its tables. -/
theorem readGrammars_cons_of_no_fault (h : ¬ AtFault t front path) (paths : List String) :
    readGrammars t (tablesIn t front) (path :: paths) =
      readGrammars t (tablesIn t (front ++ [path])) paths := by
  obtain ⟨⟨tables, hread⟩, hnew⟩ := not_atFault_iff.mp h
  have hnodup := families_nodup_tablesAt t path
  rw [tablesAt_eq hread] at hnew hnodup
  have hadd : addTables path (tablesIn t front) tables = .ok (tablesIn t front ++ tables) := by
    have happend : addTables path (tablesIn t front) (tables ++ []) = _ :=
      addTables_append hnew hnodup []
    rwa [List.append_nil, addTables] at happend
  rw [tablesIn_concat, tablesAt_eq hread]
  simp only [readGrammars, hread, hadd]

/-- Files without a fault are read through. -/
theorem readGrammars_append (h : NoFaultIn (AtFault t) front) (paths : List String) :
    readGrammars t [] (front ++ paths) = readGrammars t (tablesIn t front) paths := by
  induction front using List.reverseRecOn generalizing paths with
  | nil => rfl
  | append_singleton front last ih =>
    rw [List.append_assoc, ih h.of_append, List.singleton_append,
      readGrammars_cons_of_no_fault (h front last [] rfl)]

theorem readGrammars_of_first_fault (hfront : NoFaultIn (AtFault t) front)
    (hfault : FileFault t front path e) (back : List String) :
    readGrammars t [] (front ++ path :: back) = .error e := by
  rw [readGrammars_append hfront, readGrammars_cons_of_fault hfault]

theorem readGrammars_of_no_fault {paths : List String} (h : NoFaultIn (AtFault t) paths) :
    readGrammars t [] paths = .ok (tablesIn t paths) := by
  have hall := readGrammars_append h []
  rwa [List.append_nil, readGrammars] at hall

/-- No file is at fault exactly if all are grammars and no family is in two of them. -/
theorem noFaultIn_iff {paths : List String} : NoFaultIn (AtFault t) paths ↔
    (∀ path ∈ paths, IsGrammar t path) ∧ paths.Pairwise (SharesNoFamily t) := by
  have hread := @readGrammars_eq_ok_iff t [] (tablesIn t paths) paths List.nodup_nil
  simp only [List.nil_append, true_and, families_nodup_tablesIn_iff] at hread
  simp only [SharesNoFamily, List.pairwise_iff_forall_sublist]
  rw [← hread]
  refine ⟨readGrammars_of_no_fault, fun hok => by_contra fun hfault => ?_⟩
  obtain ⟨front, path, back, rfl, hfront, e, he⟩ := exists_first_fault hfault
  exact absurd (hok.symm.trans (readGrammars_of_first_fault hfront he back)) (by simp)

/-! ## What a fault depends on -/

/-- At some paths the second tree gives the same text as the first one, or the same error. -/
def ReadsAlike (t t' : FileTree) (paths : List String) : Prop :=
  ∀ path ∈ paths, t'.readText path = t.readText path

section

variable {t' : FileTree}

theorem readGrammar_congr (h : t'.readText path = t.readText path) :
    readGrammar t' path = readGrammar t path := by
  rw [readGrammar, readGrammar, h]

theorem tablesIn_congr {paths : List String} (h : ReadsAlike t t' paths) :
    tablesIn t' paths = tablesIn t paths := by
  refine List.flatMap_congr fun path hmem => ?_
  rw [tablesAt, tablesAt, readGrammar_congr (h path hmem)]

theorem FileFault.congr (hfront : ReadsAlike t t' front)
    (hpath : t'.readText path = t.readText path) (h : FileFault t front path e) :
    FileFault t' front path e := by
  cases h with
  | unreadable hread => exact .unreadable (hpath.trans hread)
  | malformed hread htables => exact .malformed (hpath.trans hread) htables
  | redefined hgrammar hagain =>
    refine .redefined ?_ ?_
    · rwa [IsGrammar, readGrammar_congr hpath]
    · rwa [Redefines, tablesAt, readGrammar_congr hpath, tablesIn_congr hfront]

theorem noFaultIn_congr (hfront : ReadsAlike t t' front) (h : NoFaultIn (AtFault t) front) :
    NoFaultIn (AtFault t') front := by
  rintro before path after rfl ⟨e, he⟩
  refine h before path after rfl ⟨e, he.congr (fun other hmem => ?_) ?_⟩
  · exact (hfront other (by simp [hmem])).symm
  · exact (hfront path (by simp)).symm

/-- Two loadings end alike at a first fault if they are alike up to it. -/
theorem readGrammars_of_readsAlike (halike : ReadsAlike t t' (front ++ [path]))
    (hfront : NoFaultIn (AtFault t) front) (hfault : FileFault t front path e)
    (back : List String) : readGrammars t' [] (front ++ path :: back) = .error e := by
  have hearlier : ReadsAlike t t' front := fun other hmem => halike other (by simp [hmem])
  exact readGrammars_of_first_fault (noFaultIn_congr hearlier hfront)
    (hfault.congr hearlier (halike path (by simp))) back

end

/-! ## Loading -/

/-- Once all patterns stand for files, loading is a matter of the files. -/
theorem Table.loadAll_eq_readGrammars {patterns : List String}
    (h : ∀ pattern ∈ patterns, Glob.Matches t pattern) :
    Table.loadAll t patterns = readGrammars t [] (grammarPaths t patterns) := by
  rw [loadAll, expandPatterns_eq_ok_iff.mpr ⟨h, rfl⟩]

end VisitorGen
