import VisitorGen.Proofs.FileTree.Additions
import VisitorGen.Proofs.Outlet.KeptFiles

set_option autoImplicit false

/-! # What writing leaves alone

Units that are written into a directory touch a tree at few locations: at those of their own names in
the directory, and at the directory and its ancestors where these were missing. One write does so,
and what two steps touch together is what both of them touch, so any number of writes does
(`Outlet.writeAll_touchesOnly`). In each file stands the last unit that was written there, and all
else is as it was (`Outlet.last_write_stands`). -/

namespace VisitorGen

variable {dir : String} {t t' t'' : FileTree} {names names' : List String} {l : Location}

/-! ## Touched locations -/

namespace FileTree

/-- The location of a name in a directory, if the directory is there. -/
def locationIn (t : FileTree) (dir name : String) : Option Location :=
  (t.placeOf dir).toOption.map (· ++ [name])

theorem locationIn_eq_some_iff {name : String} : t.locationIn dir name = some l ↔
    ∃ place, t.placeOf dir = .ok place ∧ place ++ [name] = l := by
  rw [locationIn]
  cases t.placeOf dir <;> simp [Except.toOption]

theorem KeepsDirectories.locationIn {name : String} (h : t.KeepsDirectories t')
    (hl : t.locationIn dir name = some l) : t'.locationIn dir name = some l := by
  obtain ⟨place, hplace, rfl⟩ := locationIn_eq_some_iff.mp hl
  exact locationIn_eq_some_iff.mpr ⟨place, h.walk hplace, rfl⟩

/-- What may have happened at a location when the names were written in the directory. -/
inductive Touched (dir : String) (names : List String) (t t' : FileTree) (l : Location) : Prop where
  | kept (same : t'.node? l = t.node? l)
  | made (made : t.Made t' (Path.way dir) l)
  | filled {name : String} (mem : name ∈ names) (place : t'.locationIn dir name = some l)
      (free : t.node? l ≠ some .directory) {content : ByteArray}
      (file : t'.node? l = some (.file content))

/-- Nothing has happened but that the names were written in the directory. -/
def TouchesOnly (dir : String) (names : List String) (t t' : FileTree) : Prop :=
  ∀ l, Touched dir names t t' l

theorem TouchesOnly.refl (dir : String) (names : List String) (t : FileTree) :
    TouchesOnly dir names t t :=
  fun _ => .kept rfl

theorem AddsOnly.touchesOnly (h : t.AddsOnly t' (Path.way dir)) (names : List String) :
    TouchesOnly dir names t t' := by
  intro l
  rcases h l with hsame | hmade
  · exact .kept hsame
  · exact .made hmade

theorem TouchesOnly.keepsDirectories (h : TouchesOnly dir names t t') : t.KeepsDirectories t' := by
  intro l hl
  cases h l with
  | kept hsame => rw [hsame, hl]
  | made hmade => exact hmade.directory
  | filled _ _ hfree _ => exact absurd hl hfree

/-- What one step after another touches is what one of them touches. -/
theorem TouchesOnly.trans (h : TouchesOnly dir names t t') (h' : TouchesOnly dir names' t' t'') :
    TouchesOnly dir (names ++ names') t t'' := by
  intro l
  have hkeeps := h'.keepsDirectories
  cases h' l with
  | kept hsame' =>
    cases h l with
    | kept hsame => exact .kept (hsame'.trans hsame)
    | made hmade => exact .made (hmade.mono hkeeps (List.Subset.refl _))
    | filled hmem hplace hfree hfile =>
      exact .filled (List.mem_append_left _ hmem) (hkeeps.locationIn hplace) hfree
        (hsame'.trans hfile)
  | made hmade' =>
    -- nothing was there after the first step, so nothing was there before it
    have hmissing : t.node? l = none := by
      cases h l with
      | kept hsame => rw [← hsame, hmade'.missing]
      | made hmade => exact hmade.missing
      | filled _ _ _ hfile => exact absurd (hmade'.missing.symm.trans hfile) (by simp)
    exact .made ⟨hmissing, hmade'.directory, hmade'.path⟩
  | filled hmem hplace hfree hfile =>
    exact .filled (List.mem_append_right _ hmem) hplace
      (fun hl => hfree (h.keepsDirectories l hl)) hfile

/-- Writing a plain name below a directory touches nothing but that name in the directory. -/
theorem writeFile_touchesOnly {name : String} {content : ByteArray} (hname : Path.IsPlain name)
    (h : t.writeFile (Path.join dir name) content = .ok t') : TouchesOnly dir [name] t t' := by
  obtain ⟨p, place, n, hp, happroach, -, hnode, rfl⟩ := writeFile_cases h
  have hbase := isBase_of_not_directory hnode
  have hkeeps := keepsDirectories_set hnode (.file content)
  rw [eq_parse_of_checkPath hp, approach_join t hname] at happroach
  intro l
  by_cases hl : l = place ++ [n]
  · subst hl
    cases hplace : t.placeOf dir with
    | error e => simp [hplace, Except.map] at happroach
    | ok place' =>
      simp only [hplace, Except.map, Except.ok.injEq, Ending.name.injEq] at happroach
      obtain ⟨rfl, rfl, -⟩ := happroach
      refine .filled (List.mem_singleton_self name) ?_ hnode
        (by rw [t.node?_set hbase, if_pos rfl])
      exact hkeeps.locationIn (locationIn_eq_some_iff.mpr ⟨place', hplace, rfl⟩)
  · exact .kept (by rw [t.node?_set hbase, if_neg hl])

end FileTree

/-! ## Writes -/

namespace Outlet

/-- A write that fails only adds directories. -/
theorem addsOnly_of_write_error {u : SourceUnit} {e : IoError}
    (h : (directory dir).write t u = (.error e, t')) : t.AddsOnly t' (Path.way dir) := by
  rcases directory_write_cases dir t u with ⟨e, t₁, heq, hmade⟩ | ⟨t₁, t₂, heq, -, -⟩
  · rw [← (Prod.mk.inj (heq.symm.trans h)).2]
    exact hmade
  · exact absurd (Prod.mk.inj (heq.symm.trans h)).1 (by simp)

/-- A write that succeeds touches its file as well. -/
theorem touchesOnly_of_write {u : SourceUnit} (hu : Path.IsPlain u.fileName)
    (h : (directory dir).write t u = (.ok (), t')) :
    FileTree.TouchesOnly dir [u.fileName] t t' := by
  rcases directory_write_cases dir t u with ⟨e, t₁, heq, -⟩ | ⟨t₁, t₂, heq, hmade, hwrite⟩
  · exact absurd (Prod.mk.inj (heq.symm.trans h)).1 (by simp)
  · rw [← (Prod.mk.inj (heq.symm.trans h)).2]
    exact (hmade.touchesOnly []).trans (FileTree.writeFile_touchesOnly hu hwrite)

theorem writeAll_touchesOnly {units : List SourceUnit}
    (hunits : ∀ u ∈ units, Path.IsPlain u.fileName) :
    FileTree.TouchesOnly dir (((directory dir).written t units).map (·.fileName)) t
      ((directory dir).writeAll t units).2 := by
  induction units generalizing t with
  | nil => exact .refl dir [] t
  | cons u units ih =>
    rw [List.forall_mem_cons] at hunits
    have hrest := fun t => ih (t := t) hunits.2
    rw [writeAll_cons]
    cases hwrite : (directory dir).write t u with
    | mk r t' =>
      cases r with
      | ok _ =>
        rw [written_cons_of_ok hwrite]
        exact (touchesOnly_of_write hunits.1 hwrite).trans (hrest t')
      | error e =>
        rw [written_cons_of_error hwrite]
        exact ((addsOnly_of_write_error hwrite).touchesOnly []).trans (hrest t')

/-- Directories that are added neither make nor change nor remove a file. -/
theorem node?_file_iff_of_write_error {u : SourceUnit} {e : IoError}
    (h : (directory dir).write t u = (.error e, t')) (l : Location) (content : ByteArray) :
    t'.node? l = some (.file content) ↔ t.node? l = some (.file content) := by
  have hadds := addsOnly_of_write_error h
  constructor
  · intro hfile
    rcases hadds l with hsame | hmade
    · rwa [← hsame]
    · exact absurd (hmade.directory.symm.trans hfile) (by simp)
  · exact hadds.extends l _

end Outlet

/-- **The last write stands, and all else is left alone.** Units with plain names are written into a
    directory, and some of them may fail. In each file that was written stands the source of the last
    unit that was. Every other file is there as it was, and nothing is removed. What is new is a
    written file, or a directory that is the given one or one of its ancestors. A write that fails
    changes no file. The names of generated units are plain, so a run writes no file but those of its
    units in the directory. -/
theorem Outlet.last_write_stands (dir : String) (tree : FileTree) (units : List SourceUnit)
    (hunits : ∀ u ∈ units, Path.IsPlain u.fileName) :
    let written := (directory dir).written tree units
    let final := ((directory dir).writeAll tree units).2
    (∀ front u back, written = front ++ u :: back → u.fileName ∉ back.map (·.fileName) →
      u.IsStored final dir) ∧
    (∀ l content, tree.node? l = some (.file content) →
      (∃ u ∈ written, final.locationIn dir u.fileName = some l) ∨
        final.node? l = some (.file content)) ∧
    (∀ l, tree.node? l ≠ none → final.node? l ≠ none) ∧
    (∀ l, tree.node? l = none → final.node? l ≠ none →
      (∃ u ∈ written, final.locationIn dir u.fileName = some l) ∨
        tree.Made final (Path.way dir) l) ∧
    (∀ t t' u e, (directory dir).write t u = (.error e, t') → ∀ l content,
      t'.node? l = some (.file content) ↔ t.node? l = some (.file content)) ∧
    (∀ (t : Target) family lines u, t.generate family lines = .ok u →
      Path.IsPlain u.fileName ∧ Char.ofNat 0 ∉ u.fileName.toList) ∧
    ∀ (t : Target) tables l content,
      (t.run (directory dir) tree tables).2.node? l = some (.file content) →
      (∃ u ∈ t.units tables, (t.run (directory dir) tree tables).2.locationIn dir u.fileName =
        some l) ∨ tree.node? l = some (.file content) := by
  intro written final
  have htouched : FileTree.TouchesOnly dir (written.map (·.fileName)) tree final :=
    Outlet.writeAll_touchesOnly hunits
  refine ⟨fun front u back hsplit hlast => ?_, fun l content hfile => ?_, fun l hl => ?_,
    fun l hmissing hnew => ?_, fun t t' u e hwrite => ?_, fun t family lines u hgen => ?_,
    fun t tables l content hfile => ?_⟩
  · exact Outlet.readFile_of_written hunits hsplit hlast
  · cases htouched l with
    | kept hsame => exact Or.inr (hsame.trans hfile)
    | made hmade => exact absurd (hmade.missing.symm.trans hfile) (by simp)
    | filled hmem hplace _ _ =>
      obtain ⟨u, hu, rfl⟩ := List.mem_map.mp hmem
      exact Or.inl ⟨u, hu, hplace⟩
  · cases htouched l with
    | kept hsame => rwa [hsame]
    | made hmade => exact absurd hmade.missing hl
    | filled _ _ _ hfile => simp [hfile]
  · cases htouched l with
    | kept hsame => exact absurd (hsame.trans hmissing) hnew
    | made hmade => exact Or.inr hmade
    | filled hmem hplace _ _ =>
      obtain ⟨u, hu, rfl⟩ := List.mem_map.mp hmem
      exact Or.inl ⟨u, hu, hplace⟩
  · exact Outlet.node?_file_iff_of_write_error hwrite
  · exact ⟨Target.isPlain_fileName hgen, Target.nul_notMem_fileName hgen⟩
  · -- a run is a sequence of writes, too
    have hplain : ∀ u ∈ t.units tables, Path.IsPlain u.fileName := Target.isPlain_of_mem_units
    have htouched : FileTree.TouchesOnly dir _ tree _ := Outlet.writeAll_touchesOnly hplain
    rw [(t.run_eq_writeAll (directory dir) tree tables).1] at hfile ⊢
    cases htouched l with
    | kept hsame => exact Or.inr (hsame.symm.trans hfile)
    | made hmade => exact absurd (hmade.directory.symm.trans hfile) (by simp)
    | filled hmem hplace _ _ =>
      obtain ⟨u, hu, rfl⟩ := List.mem_map.mp hmem
      have hsub := ((directory dir).written_sublist tree (t.units tables)).subset
      exact Or.inl ⟨u, hsub hu, hplace⟩

/-- A unit is written twice, and between the two writes another one fails since a directory bears its
    name. -/
theorem Outlet.last_write_stands_twice :
    let tree : FileTree := .ofList [("out/b.rs", none), ("out/keep.rs", some "text".toUTF8)]
    let first : SourceUnit := ⟨"A", "a.rs", "one"⟩
    let blocked : SourceUnit := ⟨"B", "b.rs", "two"⟩
    let last : SourceUnit := ⟨"A", "a.rs", "three"⟩
    let final := ((directory "out").writeAll tree [first, blocked, last]).2
    (∀ u ∈ [first, blocked, last], Path.IsPlain u.fileName) ∧
    (directory "out").written tree [first, blocked, last] = [first, last] ∧
    last.IsStored final "out" ∧ final.node? ["out", "b.rs"] ≠ none ∧
    final.node? ["out", "keep.rs"] = some (.file "text".toUTF8) := by
  intro tree first blocked last final
  have hunits : ∀ u ∈ [first, blocked, last], Path.IsPlain u.fileName := by
    intro u hu
    simp only [List.mem_cons, List.not_mem_nil, or_false] at hu
    rcases hu with rfl | rfl | rfl
    all_goals exact ⟨by decide, by decide, by decide, by decide⟩
  have hwritten : (directory "out").written tree [first, blocked, last] = [first, last] := by
    decide +kernel
  have helsewhere : ¬ ∃ u ∈ [first, last],
      final.locationIn "out" u.fileName = some ["out", "keep.rs"] := by decide +kernel
  obtain ⟨hstands, hothers, hnothing, -⟩ := last_write_stands "out" tree _ hunits
  rw [hwritten] at hstands hothers
  refine ⟨hunits, hwritten, hstands [first] last [] rfl List.not_mem_nil, ?_, ?_⟩
  · exact hnothing _ (by decide +kernel)
  · exact (hothers _ _ (by decide +kernel)).resolve_left helsewhere

end VisitorGen
