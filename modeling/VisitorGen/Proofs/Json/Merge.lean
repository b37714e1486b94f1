import Mathlib.Data.List.Induction
import VisitorGen.Proofs.Table.Load

set_option autoImplicit false

/-! # Merging entries

What becomes of the entries of a file (`Json.isMergeOf_mergeEntries`): there is one table for each key,
at the place where the key first stands, and it is that of the last entry with the key. Nothing is
lost exactly if no key comes twice (`Json.mergeEntries_eq_map_iff`). -/

namespace VisitorGen.Json

/-! ## Putting a table in -/

theorem putTable_of_notMem {t : Table} {tables : List Table} (h : t.family ∉ Table.families tables) :
    putTable t tables = tables ++ [t] := by
  induction tables with
  | nil => rfl
  | cons u us ih =>
    rw [Table.families_cons, List.mem_cons, not_or] at h
    rw [putTable, if_neg (Ne.symm h.1), ih h.2, List.cons_append]

/-- A table that is put in takes the place of the one for its family. -/
theorem mem_putTable {t u : Table} {tables : List Table} (h : (Table.families tables).Nodup)
    (hu : u ∈ putTable t tables) : u = t ∨ u ∈ tables ∧ u.family ≠ t.family := by
  induction tables with
  | nil => exact Or.inl (List.mem_singleton.mp hu)
  | cons v vs ih =>
    rw [Table.families_cons, List.nodup_cons] at h
    rw [putTable] at hu
    split at hu
    · next hfamily =>
      rcases List.mem_cons.mp hu with rfl | hmem
      · exact Or.inl rfl
      · refine Or.inr ⟨List.mem_cons_of_mem v hmem, fun heq => h.1 ?_⟩
        rw [hfamily, ← heq]
        exact List.mem_map_of_mem hmem
    · next hfamily =>
      rcases List.mem_cons.mp hu with rfl | hmem
      · exact Or.inr ⟨List.mem_cons_self, hfamily⟩
      · exact (ih h.2 hmem).imp id (And.imp_left (List.mem_cons_of_mem v))

theorem mergeEntries_concat (entries : List Entry) (e : Entry) :
    mergeEntries (entries ++ [e]) = putTable e.table (mergeEntries entries) := by
  rw [mergeEntries, List.foldl_append]
  rfl

/-! ## The tables of entries -/

/-- The table of an entry goes by its key and has its rules. -/
theorem Entry.table_eq (e : Entry) :
    e.table = ⟨String.ofList e.key, e.rules.map String.ofList⟩ := rfl

theorem families_map_table (entries : List Entry) :
    Table.families (entries.map Entry.table) = entries.map fun e => String.ofList e.key := by
  rw [Table.families, List.map_map]
  rfl

/-- The tables of some entries: one for each key, at the place of the first entry with it, and with
    the rules of the last one. -/
structure IsMergeOf (tables : List Table) (entries : List Entry) : Prop where
  order : Table.families tables = (entries.map fun e => String.ofList e.key).eraseDups
  last : ∀ table ∈ tables, ∃ front e back, entries = front ++ e :: back ∧
    table = ⟨String.ofList e.key, e.rules.map String.ofList⟩ ∧
    ∀ later ∈ back, later.key ≠ e.key

/-- **How entries are merged.** Each key keeps its first place and its last value. -/
theorem isMergeOf_mergeEntries (entries : List Entry) :
    IsMergeOf (mergeEntries entries) entries := by
  induction entries using List.reverseRecOn with
  | nil => exact ⟨rfl, fun table h => absurd h List.not_mem_nil⟩
  | append_singleton entries e ih =>
    rw [mergeEntries_concat]
    refine ⟨?_, fun table htable => ?_⟩
    · -- a family that is new comes last, and the others stay where they are
      rw [families_putTable, e.table_eq, ih.order, List.map_append, List.map_singleton,
        List.eraseDups_append]
      generalize (entries.map fun e => String.ofList e.key) = families
      by_cases he : String.ofList e.key ∈ families
      · simp [he, List.removeAll]
      · simp [he, List.removeAll, List.eraseDups_cons]
    · rcases mem_putTable (families_nodup_mergeEntries entries) htable with rfl | ⟨hmem, hfamily⟩
      · exact ⟨entries, e, [], rfl, e.table_eq, fun later h => absurd h List.not_mem_nil⟩
      · -- the new entry is of another family, so it does not count
        obtain ⟨front, e', back, rfl, rfl, hback⟩ := ih.last table hmem
        refine ⟨front, e', back ++ [e], by simp, rfl, List.forall_mem_append.mpr ⟨hback, ?_⟩⟩
        intro later hlater hkey
        rw [List.mem_singleton.mp hlater] at hkey
        exact hfamily (congrArg String.ofList hkey.symm)

theorem families_nodup_iff {entries : List Entry} :
    (Table.families (entries.map Entry.table)).Nodup ↔ (entries.map (·.key)).Nodup := by
  have hkeys : (entries.map fun e => String.ofList e.key) =
      (entries.map (·.key)).map String.ofList := by
    rw [List.map_map]
    rfl
  rw [families_map_table, hkeys, List.nodup_map_iff fun _ _ => String.ofList_injective]

/-- The tables are those of all entries exactly if the keys differ. -/
theorem mergeEntries_eq_map_iff {entries : List Entry} :
    mergeEntries entries = entries.map Entry.table ↔ (entries.map (·.key)).Nodup := by
  rw [← families_nodup_iff]
  constructor
  · intro h
    rw [← h]
    exact families_nodup_mergeEntries entries
  · intro h
    induction entries using List.reverseRecOn with
    | nil => rfl
    | append_singleton entries e ih =>
      rw [List.map_append, Table.families_append, List.nodup_append] at h
      have hmerge : mergeEntries entries = entries.map Entry.table := ih h.1
      have hnew : e.table.family ∉ Table.families (entries.map Entry.table) := by
        intro hmem
        exact h.2.2 _ hmem _ (List.mem_singleton_self _) rfl
      rw [mergeEntries_concat, hmerge, putTable_of_notMem hnew, List.map_append]
      rfl

end VisitorGen.Json
