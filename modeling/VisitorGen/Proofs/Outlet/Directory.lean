import VisitorGen.Outlet.Directory
import VisitorGen.Proofs.FileTree.Additions
import VisitorGen.Proofs.Outlet.Sequence

set_option autoImplicit false

/-! # Writing into a directory

A unit that is written is in its file, whatever was in the tree before and however the directory is
spelled. The other files of the directory stay as they are, and if the write fails all files do. So
the file of a name holds the source of the last unit that was written under it
(`Outlet.readFile_of_written`). -/

namespace VisitorGen

/-- All that writing a unit can do: fail after some directories were made, or write its file after
    all of them were. -/
theorem Outlet.directory_write_cases (dir : String) (t : FileTree) (u : SourceUnit) :
    (∃ e t', (directory dir).write t u = (.error e, t') ∧ t.AddsOnly t' (Path.way dir)) ∨
    ∃ t' t'', (directory dir).write t u = (.ok (), t'') ∧ t.AddsOnly t' (Path.way dir) ∧
      t'.writeFile (u.pathIn dir) u.source.toUTF8 = .ok t'' := by
  have hmade := t.makeDirAll_addsOnly dir
  cases hdir : t.makeDirAll dir with
  | mk r t' =>
    rw [hdir] at hmade
    cases r with
    | error e => exact Or.inl ⟨e, t', by simp only [directory, hdir], hmade⟩
    | ok _ =>
      cases hwrite : t'.writeFile (u.pathIn dir) u.source.toUTF8 with
      | error e => exact Or.inl ⟨e, t', by simp only [directory, hdir, hwrite], hmade⟩
      | ok t'' => exact Or.inr ⟨t', t'', by simp only [directory, hdir, hwrite], hmade, hwrite⟩

/-- A unit that was written is in its file. -/
theorem Outlet.readFile_of_directory_write {dir : String} {t t' : FileTree} {u : SourceUnit}
    (h : (Outlet.directory dir).write t u = (.ok (), t')) :
    t'.readFile (u.pathIn dir) = .ok u.source.toUTF8 := by
  rcases Outlet.directory_write_cases dir t u with ⟨e, t₁, heq, -⟩ | ⟨t₁, t₂, heq, -, hwrite⟩
  · rw [heq] at h
    simp at h
  · rw [heq] at h
    rw [← (Prod.mk.inj h).2]
    exact FileTree.readFile_writeFile hwrite

/-- A write keeps the other files of the directory, and if it fails it keeps all of them. -/
theorem Outlet.readFile_directory_write {dir name : String} {t : FileTree} {u : SourceUnit}
    {content : ByteArray} (hname : Path.IsPlain name) (hu : Path.IsPlain u.fileName)
    (hne : ((Outlet.directory dir).write t u).1 = .ok () → name ≠ u.fileName)
    (hread : t.readFile (Path.join dir name) = .ok content) :
    ((Outlet.directory dir).write t u).2.readFile (Path.join dir name) = .ok content := by
  rcases Outlet.directory_write_cases dir t u with ⟨e, t', heq, hmade⟩ |
    ⟨t', t'', heq, hmade, hwrite⟩
  · rw [heq]
    exact hmade.extends.readFile hread
  · rw [heq] at hne ⊢
    exact FileTree.readFile_writeFile_of_ne hu hname (hne rfl) hwrite
      (hmade.extends.readFile hread)

/-! ## One unit after another -/

/-- A file stays as it is if no unit is written under its name. -/
theorem Outlet.readFile_writeAll {dir name : String} {t : FileTree} {units : List SourceUnit}
    {content : ByteArray} (hname : Path.IsPlain name)
    (hunits : ∀ u ∈ units, Path.IsPlain u.fileName)
    (hnot : name ∉ ((Outlet.directory dir).written t units).map (·.fileName))
    (hread : t.readFile (Path.join dir name) = .ok content) :
    ((Outlet.directory dir).writeAll t units).2.readFile (Path.join dir name) = .ok content := by
  induction units generalizing t with
  | nil => exact hread
  | cons u units ih =>
    rw [List.forall_mem_cons] at hunits
    rw [writeAll_cons]
    cases hwrite : (Outlet.directory dir).write t u with
    | mk r t' =>
      have hkept : (r = .ok () → name ≠ u.fileName) →
          t'.readFile (Path.join dir name) = .ok content := by
        intro hne
        have hread' := Outlet.readFile_directory_write hname hunits.1 (by rwa [hwrite]) hread
        rwa [hwrite] at hread'
      cases r with
      | ok _ =>
        rw [written_cons_of_ok hwrite, List.map_cons, List.mem_cons, not_or] at hnot
        exact ih hunits.2 hnot.2 (hkept fun _ => hnot.1)
      | error e =>
        rw [written_cons_of_error hwrite] at hnot
        exact ih hunits.2 hnot (hkept fun h => absurd h (by simp))

/-- The file of a unit holds its source if no later unit is written under its name. -/
theorem Outlet.readFile_of_written {dir : String} {t : FileTree} {units : List SourceUnit}
    (hunits : ∀ u ∈ units, Path.IsPlain u.fileName) {front back : List SourceUnit} {u : SourceUnit}
    (h : (Outlet.directory dir).written t units = front ++ u :: back)
    (hnot : u.fileName ∉ back.map (·.fileName)) :
    ((Outlet.directory dir).writeAll t units).2.readFile (u.pathIn dir) = .ok u.source.toUTF8 := by
  induction units generalizing t front with
  | nil => simp at h
  | cons v units ih =>
    rw [List.forall_mem_cons] at hunits
    rw [writeAll_cons]
    cases hwrite : (Outlet.directory dir).write t v with
    | mk r t' =>
      cases r with
      | error e =>
        rw [written_cons_of_error hwrite] at h
        exact ih hunits.2 h
      | ok _ =>
        rw [written_cons_of_ok hwrite] at h
        cases front with
        | cons w front => exact ih hunits.2 (List.cons.inj h).2
        | nil =>
          -- this is the unit, and what comes behind it has other names
          obtain ⟨rfl, rfl⟩ := List.cons.inj h
          exact Outlet.readFile_writeAll hunits.1 hunits.2 hnot
            (Outlet.readFile_of_directory_write hwrite)

end VisitorGen
