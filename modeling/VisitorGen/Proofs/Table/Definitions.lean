import Mathlib.Data.List.Forall2
import VisitorGen.Proofs.Json.Tables

set_option autoImplicit false

/-! # What becomes of definitions

The entries that are written in the grammar files, file by file, and the tables that are loaded. A
family that two files define ends the loading, so no entry gives way to one of another file. Within a
file it is different: there the last entry of a family takes the place of the first, without an error
(`Table.definition_lost`). So all definitions are kept exactly if no file defines a family twice
(`Table.loadAll_definitions`). -/

namespace VisitorGen

/-! ## The entries of a file -/

/-- The file holds an object with these entries, in order. There may be blanks before the object, and
    what comes behind it does not matter. -/
def HoldsEntries (t : FileTree) (path : String) (entries : List Json.Entry) : Prop :=
  ∃ text pad object rest, t.readText path = .ok text ∧ Json.AreBlanks pad ∧
    Json.ObjectText entries object ∧ text.toList = pad ++ object ++ rest

variable {t : FileTree} {path : String}

/-- A file holds entries if its text starts with them. -/
theorem holdsEntries_iff_startsWith {entries : List Json.Entry} : HoldsEntries t path entries ↔
    ∃ text, t.readText path = .ok text ∧ Json.StartsWithEntries entries text.toList := by
  constructor
  · rintro ⟨text, pad, object, rest, hread, hentries⟩
    exact ⟨text, hread, pad, object, rest, hentries⟩
  · rintro ⟨text, hread, pad, object, rest, hentries⟩
    exact ⟨text, pad, object, rest, hread, hentries⟩

theorem holdsEntries_iff {entries : List Json.Entry} : HoldsEntries t path entries ↔
    ∃ text rest, t.readText path = .ok text ∧ Json.readObject text.toList = .ok (entries, rest) := by
  simp only [holdsEntries_iff_startsWith, Json.startsWithEntries_iff, exists_and_left]

/-- A file does not hold other entries as well. -/
theorem HoldsEntries.unique {entries entries' : List Json.Entry} (h : HoldsEntries t path entries)
    (h' : HoldsEntries t path entries') : entries' = entries := by
  obtain ⟨text, rest, hread, hobject⟩ := holdsEntries_iff.mp h
  obtain ⟨text', rest', hread', hobject'⟩ := holdsEntries_iff.mp h'
  obtain rfl := Except.ok.inj (hread.symm.trans hread')
  exact (Prod.mk.inj (Except.ok.inj (hobject'.symm.trans hobject))).1

theorem HoldsEntries.tablesAt_eq {entries : List Json.Entry} (h : HoldsEntries t path entries) :
    tablesAt t path = Json.mergeEntries entries := by
  obtain ⟨text, hread, hentries⟩ := holdsEntries_iff_startsWith.mp h
  exact VisitorGen.tablesAt_eq
    (readGrammar_eq_ok_iff.mpr ⟨text, hread, Json.readTables_of_entries hentries⟩)

theorem IsGrammar.exists_entries (h : IsGrammar t path) : ∃ entries, HoldsEntries t path entries := by
  obtain ⟨tables, hgrammar⟩ := h
  obtain ⟨text, hread, htables⟩ := readGrammar_eq_ok_iff.mp hgrammar
  obtain ⟨entries, hentries, -⟩ := Json.exists_entries_of_readTables htables
  exact ⟨entries, holdsEntries_iff_startsWith.mpr ⟨text, hread, hentries⟩⟩

/-! ## The entries of all files -/

/-- Grammars hold entries, and only these. -/
theorem exists_entries_of_grammars {paths : List String} (h : ∀ path ∈ paths, IsGrammar t path) :
    ∃ files, ∀ files', List.Forall₂ (HoldsEntries t) paths files' ↔ files' = files := by
  induction paths with
  | nil => exact ⟨[], fun files' => List.forall₂_nil_left_iff⟩
  | cons path paths ih =>
    rw [List.forall_mem_cons] at h
    obtain ⟨entries, hentries⟩ := h.1.exists_entries
    obtain ⟨files, hfiles⟩ := ih h.2
    refine ⟨entries :: files, fun files' => ⟨fun hall => ?_, ?_⟩⟩
    · cases hall with
      | cons hhead htail => rw [hentries.unique hhead, (hfiles _).mp htail]
    · rintro rfl
      exact .cons hentries ((hfiles _).mpr rfl)

theorem tablesIn_eq_of_entries {paths : List String} {files : List (List Json.Entry)}
    (h : List.Forall₂ (HoldsEntries t) paths files) :
    tablesIn t paths = files.flatMap Json.mergeEntries := by
  induction h with
  | nil => rfl
  | cons hentries _ ih =>
    rw [tablesIn, List.flatMap_cons, List.flatMap_cons, ← tablesIn, hentries.tablesAt_eq, ih]

theorem Json.family_mem_mergeEntries {entries : List Json.Entry} {e : Json.Entry} (h : e ∈ entries) :
    String.ofList e.key ∈ Table.families (Json.mergeEntries entries) := by
  rw [(Json.isMergeOf_mergeEntries entries).order, List.mem_eraseDups]
  exact List.mem_map_of_mem h

/-- If the families of all files differ, no two files define the same one. -/
theorem keys_differ_of_nodup {files : List (List Json.Entry)}
    (h : (Table.families (files.flatMap Json.mergeEntries)).Nodup) :
    files.Pairwise fun earlier later => ∀ e ∈ earlier, ∀ e' ∈ later, e.key ≠ e'.key := by
  rw [Table.families, List.map_flatMap, List.nodup_flatMap] at h
  refine h.2.imp fun hdisjoint e he e' he' hkey => ?_
  have hmem := Json.family_mem_mergeEntries he'
  rw [← hkey] at hmem
  exact hdisjoint (Json.family_mem_mergeEntries he) hmem

/-- The tables of all files are those of all entries exactly if no file has a key twice. -/
theorem flatMap_mergeEntries_eq_iff {files : List (List Json.Entry)}
    (h : (Table.families (files.flatMap Json.mergeEntries)).Nodup) :
    files.flatMap Json.mergeEntries = files.flatten.map Json.Entry.table ↔
      ∀ entries ∈ files, (entries.map (·.key)).Nodup := by
  constructor
  · intro heq entries hmem
    -- the families of all entries differ, so those of one file do
    rw [heq, List.map_flatten, Table.families, List.map_flatten, List.nodup_flatten] at h
    refine Json.families_nodup_iff.mp (h.1 _ ?_)
    exact List.mem_map_of_mem (List.mem_map_of_mem hmem)
  · intro hkeys
    rw [List.map_flatten, ← List.flatMap_def]
    exact List.flatMap_congr fun entries hmem => Json.mergeEntries_eq_map_iff.mpr (hkeys entries hmem)

/-- **What is kept of the definitions.** When tables are loaded, each file holds some entries, and no
    family stands in two files. The tables are those of the files, in reading order, and in each file
    a family keeps the place of its first entry and the rules of its last one. So the tables are
    those of all entries, in order and each with its own rules, exactly if no file has an entry for a
    family twice. -/
theorem Table.loadAll_definitions {t : FileTree} {patterns : List String} {tables : List Table}
    (h : Table.loadAll t patterns = .ok tables) :
    ∃ files : List (List Json.Entry),
      (∀ files', List.Forall₂ (HoldsEntries t) (grammarPaths t patterns) files' ↔ files' = files) ∧
      (∃ merged, List.Forall₂ Json.IsMergeOf merged files ∧ tables = merged.flatten) ∧
      (files.Pairwise fun earlier later => ∀ e ∈ earlier, ∀ e' ∈ later, e.key ≠ e'.key) ∧
      (tables = files.flatten.map (fun e => ⟨String.ofList e.key, e.rules.map String.ofList⟩) ↔
        ∀ entries ∈ files, (entries.map (·.key)).Nodup) := by
  obtain ⟨-, hgrammars, htables, hnodup⟩ := Table.loadAll_eq_ok_iff.mp h
  obtain ⟨files, hfiles⟩ := exists_entries_of_grammars hgrammars
  rw [tablesIn_eq_of_entries ((hfiles files).mpr rfl)] at htables
  rw [htables] at hnodup ⊢
  refine ⟨files, hfiles, ⟨files.map Json.mergeEntries, ?_, List.flatMap_def⟩,
    keys_differ_of_nodup hnodup, flatMap_mergeEntries_eq_iff hnodup⟩
  rw [List.forall₂_map_left_iff, List.forall₂_same]
  exact fun entries _ => Json.isMergeOf_mergeEntries entries

/-- An entry with some lines, as it is read. -/
def Json.Entry.of (family : String) (rules : List String) : Json.Entry :=
  ⟨family.toList, rules.map String.toList⟩

/-- Two files, of which the second has two entries. -/
theorem Table.loadAll_definitions_two_files :
    let tree : FileTree := .ofList [("a.json", some "\x7b\"Stmt\": [\"B : T x\"]\x7d".toUTF8),
      ("b.json", some "\x7b\"Expr\": [], \"Type\": []\x7d".toUTF8)]
    let files : List (List Json.Entry) :=
      [[.of "Stmt" ["B : T x"]], [.of "Expr" [], .of "Type" []]]
    List.Forall₂ (HoldsEntries tree) (grammarPaths tree ["a.json", "b.json"]) files ∧
    Table.loadAll tree ["a.json", "b.json"] = .ok (files.flatten.map fun e =>
      ⟨String.ofList e.key, e.rules.map String.ofList⟩) := by
  intro tree files
  have hload : Table.loadAll tree ["a.json", "b.json"] =
      .ok [⟨"Stmt", ["B : T x"]⟩, ⟨"Expr", []⟩, ⟨"Type", []⟩] :=
    eq_ok_of_toOption (by decide +kernel)
  have hpaths : grammarPaths tree ["a.json", "b.json"] = ["a.json", "b.json"] := by decide +kernel
  have hfirst : Json.readObject "\x7b\"Stmt\": [\"B : T x\"]\x7d".toList =
      .ok ([.of "Stmt" ["B : T x"]], []) := eq_ok_of_toOption (by decide +kernel)
  have hsecond : Json.readObject "\x7b\"Expr\": [], \"Type\": []\x7d".toList =
      .ok ([.of "Expr" [], .of "Type" []], []) := eq_ok_of_toOption (by decide +kernel)
  have hheld : List.Forall₂ (HoldsEntries tree) (grammarPaths tree ["a.json", "b.json"]) files := by
    rw [hpaths]
    exact .cons (holdsEntries_iff.mpr ⟨_, [], by decide +kernel, hfirst⟩)
      (.cons (holdsEntries_iff.mpr ⟨_, [], by decide +kernel, hsecond⟩) .nil)
  obtain ⟨files', hfiles, -, -, hkept⟩ := Table.loadAll_definitions hload
  obtain rfl : files = files' := (hfiles files).mp hheld
  exact ⟨hheld, hload.trans (congrArg Except.ok (hkept.mpr (by decide)))⟩

/-- A file with two entries for a family is loaded without an error, and the first one is lost. -/
theorem Table.definition_lost :
    let tree : FileTree := .ofList
      [("a.json", some "\x7b\"Expr\": [\"A : T x\"], \"Expr\": [\"B : T x\"]\x7d".toUTF8)]
    let entries : List Json.Entry := [.of "Expr" ["A : T x"], .of "Expr" ["B : T x"]]
    grammarPaths tree ["a.json"] = ["a.json"] ∧ HoldsEntries tree "a.json" entries ∧
    Table.loadAll tree ["a.json"] = .ok [⟨"Expr", ["B : T x"]⟩] ∧
    [⟨"Expr", ["B : T x"]⟩] ≠
      entries.map fun e => Table.mk (String.ofList e.key) (e.rules.map String.ofList) := by
  intro tree entries
  have hread : Json.readObject
      "\x7b\"Expr\": [\"A : T x\"], \"Expr\": [\"B : T x\"]\x7d".toList = .ok (entries, []) :=
    eq_ok_of_toOption (by decide +kernel)
  refine ⟨by decide +kernel, holdsEntries_iff.mpr ⟨_, [], ?_, hread⟩,
    eq_ok_of_toOption (by decide +kernel), by decide +kernel⟩
  decide +kernel

end VisitorGen
