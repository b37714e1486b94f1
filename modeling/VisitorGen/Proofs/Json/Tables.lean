import VisitorGen.Proofs.Json.Document
import VisitorGen.Proofs.Json.Merge

set_option autoImplicit false

/-! # The tables of a text

What a text means as a grammar file. It starts with the written form of some entries, and gives the
tables that these are merged into. Entries have one merge only (`IsMergeOf.unique`), so the texts
that are read, and the tables that they give, are known without the reader
(`readTables_eq_ok_iff`). -/

namespace VisitorGen.Json

/-! ## Merges are unique -/

/-- The last entry with a key is the only one behind which the key does not come again. -/
theorem eq_of_last_entry {e e' : Entry} {front back front' back' : List Entry}
    (h : front ++ e :: back = front' ++ e' :: back') (hkey : e.key = e'.key)
    (hlast : ∀ later ∈ back, later.key ≠ e.key) (hlast' : ∀ later ∈ back', later.key ≠ e'.key) :
    e = e' := by
  rcases List.append_eq_append_iff.mp h with ⟨between, -, hback⟩ | ⟨between, -, hback⟩
  · cases between with
    | nil => exact (List.cons.inj hback).1
    | cons d between =>
      -- the second entry would stand behind the first one
      obtain ⟨-, rfl⟩ := List.cons.inj hback
      exact absurd hkey.symm (hlast e' (by simp))
  · cases between with
    | nil => exact (List.cons.inj hback).1.symm
    | cons d between =>
      obtain ⟨-, rfl⟩ := List.cons.inj hback
      exact absurd hkey (hlast' e (by simp))

/-- Tables of the same entries for the same family are equal. -/
theorem IsMergeOf.table_eq {tables tables' : List Table} {entries : List Entry}
    (h : IsMergeOf tables entries) (h' : IsMergeOf tables' entries) {table table' : Table}
    (hmem : table ∈ tables) (hmem' : table' ∈ tables') (hfamily : table.family = table'.family) :
    table = table' := by
  obtain ⟨front, e, back, hentries, rfl, hlast⟩ := h.last table hmem
  obtain ⟨front', e', back', hentries', rfl, hlast'⟩ := h'.last table' hmem'
  have hkey : e.key = e'.key := String.ofList_injective hfamily
  rw [eq_of_last_entry (hentries.symm.trans hentries') hkey hlast hlast']

theorem IsMergeOf.unique {tables tables' : List Table} {entries : List Entry}
    (h : IsMergeOf tables entries) (h' : IsMergeOf tables' entries) : tables = tables' := by
  have hfamilies : tables.map (·.family) = tables'.map (·.family) := h.order.trans h'.order.symm
  have hlength : tables.length = tables'.length := by
    simpa using congrArg List.length hfamilies
  refine List.ext_getElem hlength fun i hi hi' => ?_
  have hfamily : tables[i].family = tables'[i].family := by
    have hget := List.getElem_of_eq hfamilies (by simpa using hi)
    simpa only [List.getElem_map] using hget
  exact h.table_eq h' (List.getElem_mem hi) (List.getElem_mem hi') hfamily

/-! ## Texts of entries -/

/-- The text starts with an object of the entries. There may be blanks before the object, and what
    comes behind it does not matter. -/
def StartsWithEntries (entries : List Entry) (text : List Char) : Prop :=
  ∃ pad object rest, AreBlanks pad ∧ ObjectText entries object ∧ text = pad ++ object ++ rest

theorem startsWithEntries_iff {entries : List Entry} {text : List Char} :
    StartsWithEntries entries text ↔ ∃ rest, readObject text = .ok (entries, rest) := by
  constructor
  · rintro ⟨pad, object, rest, hpad, hobject, htext⟩
    exact ⟨rest, (readObject_reads _ _ _).mpr ⟨_, ⟨pad, object, hpad, hobject, rfl⟩, htext⟩⟩
  · rintro ⟨rest, hread⟩
    obtain ⟨_, ⟨pad, object, hpad, hobject, rfl⟩, htext⟩ := (readObject_reads _ _ _).mp hread
    exact ⟨pad, object, rest, hpad, hobject, htext⟩

/-- The tables of a text that starts with entries are those that the entries are merged into. -/
theorem readTables_of_entries {entries : List Entry} {text : String}
    (h : StartsWithEntries entries text.toList) :
    readTables text = .ok (mergeEntries entries) := by
  obtain ⟨rest, hread⟩ := startsWithEntries_iff.mp h
  simp only [readTables, hread]

/-- A text that has tables starts with entries, and the tables are their merge. -/
theorem exists_entries_of_readTables {text : String} {tables : List Table}
    (h : readTables text = .ok tables) :
    ∃ entries, StartsWithEntries entries text.toList ∧ tables = mergeEntries entries := by
  rw [readTables] at h
  split at h
  · exact absurd h (by simp)
  · next entries rest hread =>
    exact ⟨entries, startsWithEntries_iff.mpr ⟨rest, hread⟩, (Except.ok.inj h).symm⟩

/-- **Which texts are grammar files, and what they mean.** Every text that starts with the written
    form of some entries is read, whatever comes behind it, and gives one table for each key, at its
    first place and with its last value. Every text that is read starts so, and its tables are those
    of the entries. -/
theorem readTables_eq_ok_iff (text : String) :
    (∀ entries, StartsWithEntries entries text.toList →
      ∃ tables, readTables text = .ok tables ∧ IsMergeOf tables entries) ∧
    ∀ tables, readTables text = .ok tables ↔
      ∃ entries, StartsWithEntries entries text.toList ∧ IsMergeOf tables entries := by
  refine ⟨fun entries hentries => ?_, fun tables => ⟨fun h => ?_, ?_⟩⟩
  · exact ⟨_, readTables_of_entries hentries, isMergeOf_mergeEntries entries⟩
  · obtain ⟨entries, hentries, rfl⟩ := exists_entries_of_readTables h
    exact ⟨entries, hentries, isMergeOf_mergeEntries entries⟩
  · rintro ⟨entries, hentries, hmerge⟩
    rw [readTables_of_entries hentries, (isMergeOf_mergeEntries entries).unique hmerge]

/-- Blanks, escapes, a surrogate pair and a repeated key, with other text behind the object. -/
example : (readTables " \x7b \"A\" : [\"\\ud83d\\uDE00\\n\"] , \"\" :\n[], \"\\u0041\":[\"/\",\"\\/\"]\x7d, [").toOption =
    some [⟨"A", ["/", "/"]⟩, ⟨"", []⟩] := by decide +kernel

end VisitorGen.Json
