import Mathlib.Data.List.TakeWhile
import VisitorGen.Proofs.FileTree.Ancestors

set_option autoImplicit false

/-! # What is added to a tree

An attempt at making a directory adds nothing to a tree but directories, whether it succeeds or not,
and each of them is the directory itself or one of its ancestors: the path of one of these leads to
it (`FileTree.makeDirAll_addsOnly`). Everything else stays as it was. -/

namespace VisitorGen

/-- The paths of a directory and of its ancestors, from the directory upwards. -/
def Path.way (dir : String) : List Path :=
  .parse dir :: (Path.parse dir).ancestors

namespace FileTree

variable {t t' t'' : FileTree} {p : Path} {ps : List Path} {place l : Location}

/-! ## The way to a directory -/

/-- A path that is approached through a name leads to that name, if it is a directory. -/
theorem walk_of_approach {name : String} {slashed : Bool}
    (happroach : t.approach p = .ok (.name place name slashed))
    (hentry : t.entry place name = .ok (some .directory)) :
    t.walk (startOf p) p.segments = .ok (place ++ [name]) := by
  by_cases hne : ∃ s ∈ p.segments, s ≠ ""
  · obtain ⟨front, last, n, hp, hlast⟩ := exists_last_segment hne
    rw [approach_eq t hp hlast] at happroach
    cases hfront : t.walk (startOf p) front with
    | error e => simp [hfront, Except.map] at happroach
    | ok place' =>
      by_cases hdots : last = "." ∨ last = ".."
      · simp [hfront, Except.map, hdots] at happroach
      · rw [not_or] at hdots
        simp only [hfront, Except.map, hdots, decide_false, Bool.or_self, Bool.false_eq_true,
          if_false, Except.ok.injEq, Ending.name.injEq] at happroach
        obtain ⟨rfl, rfl, -⟩ := happroach
        rw [hp, walk_append, hfront]
        simp only [Except.bind, FileTree.walk, hlast, hdots, decide_false, Bool.or_self,
          Bool.false_eq_true, if_false, hentry, walk_replicate_empty]
  · -- a path without names leads to no name
    have hnone : p.segments.reverse.dropWhile (· = "") = [] := by
      rw [List.dropWhile_eq_nil_iff]
      intro s hs
      have hempty : s = "" := by_contra fun h => hne ⟨s, List.mem_reverse.mp hs, h⟩
      simp [hempty]
    rw [approach] at happroach
    simp only [hnone] at happroach
    split at happroach <;> simp at happroach

theorem directoryAt?_eq_some_iff : t.directoryAt? p = some l ↔
    t.walk (startOf p) p.segments = .ok l := by
  rw [directoryAt?]
  cases t.walk (startOf p) p.segments <;> simp [Except.toOption]

theorem KeepsDirectories.directoryAt? (h : t.KeepsDirectories t')
    (hp : t.directoryAt? p = some l) : t'.directoryAt? p = some l :=
  directoryAt?_eq_some_iff.mpr (h.walk (directoryAt?_eq_some_iff.mp hp))

/-! ## New directories -/

/-- Nothing was at the location before, and now there is a directory, to which one of the paths
    leads. -/
structure Made (t t' : FileTree) (ps : List Path) (l : Location) : Prop where
  missing : t.node? l = none
  directory : t'.node? l = some .directory
  path : ∃ p ∈ ps, t'.directoryAt? p = some l

/-- Every location is as it was, unless a directory was made there to which one of the paths
    leads. -/
def AddsOnly (t t' : FileTree) (ps : List Path) : Prop :=
  ∀ l, t'.node? l = t.node? l ∨ t.Made t' ps l

theorem AddsOnly.refl (t : FileTree) (ps : List Path) : t.AddsOnly t ps :=
  fun _ => Or.inl rfl

theorem Made.mono {qs : List Path} (h : t.Made t' ps l) (hkeeps : t'.KeepsDirectories t'')
    (hsub : ps ⊆ qs) : t.Made t'' qs l := by
  obtain ⟨p, hp, hl⟩ := h.path
  exact ⟨h.missing, hkeeps l h.directory, p, hsub hp, hkeeps.directoryAt? hl⟩

theorem AddsOnly.extends (h : t.AddsOnly t' ps) : t.Extends t' := by
  intro l node hnode
  rcases h l with hsame | hmade
  · rw [hsame, hnode]
  · exact absurd (hnode.symm.trans hmade.missing) (by simp)

theorem AddsOnly.file {content : ByteArray} (h : t.AddsOnly t' ps)
    (hfile : t'.node? l = some (.file content)) : t.node? l = some (.file content) := by
  rcases h l with hsame | hmade
  · rwa [← hsame]
  · exact absurd (hfile.symm.trans hmade.directory) (by simp)

theorem AddsOnly.mono {qs : List Path} (h : t.AddsOnly t' ps) (hsub : ps ⊆ qs) :
    t.AddsOnly t' qs :=
  fun l => (h l).imp_right fun hmade => hmade.mono (fun _ h => h) hsub

theorem AddsOnly.trans (h : t.AddsOnly t' ps) (h' : t'.AddsOnly t'' ps) : t.AddsOnly t'' ps := by
  intro l
  rcases h' l with hsame | hmade
  · rw [hsame]
    exact (h l).imp_right fun hmade => hmade.mono h'.extends.keepsDirectories (List.Subset.refl ps)
  · -- what was missing after the first step was missing before it
    have hmissing : t.node? l = none := by
      rcases h l with hsame | hmade'
      · rw [← hsame, hmade.missing]
      · exact hmade'.missing
    exact Or.inr ⟨hmissing, hmade.directory, hmade.path⟩

theorem makeDir_addsOnly (h : t.makeDir p = .ok t') (hp : p ∈ ps) : t.AddsOnly t' ps := by
  obtain ⟨place, name, slashed, happroach, hsize, hnode, rfl⟩ := makeDir_cases h
  have hdirectory : t.node? (place ++ [name]) ≠ some .directory := by simp [hnode]
  have hset := t.node?_set (isBase_of_not_directory hdirectory) .directory
  intro l
  by_cases hl : l = place ++ [name]
  · subst hl
    have hmade : (t.set (place ++ [name]) .directory).node? (place ++ [name]) =
        some .directory := by rw [hset, if_pos rfl]
    refine Or.inr ⟨hnode, hmade, p, hp, directoryAt?_eq_some_iff.mpr ?_⟩
    exact walk_of_approach ((keepsDirectories_set hdirectory _).approach happroach)
      (entry_eq_ok_iff.mpr ⟨hsize, hmade⟩)
  · exact Or.inl (by rw [hset, if_neg hl])

theorem attempt_addsOnly {result : Except IoError Unit} (h : t.attempt p = (result, t'))
    (hp : p ∈ ps) : t.AddsOnly t' ps := by
  rcases attempt_cases h with ⟨hmade, -⟩ | ⟨rfl, -⟩ | ⟨rfl, -⟩
  · exact makeDir_addsOnly hmade hp
  · exact .refl _ ps
  · exact .refl _ ps

theorem makeDirChain_addsOnly (t : FileTree) (ps : List Path) :
    t.AddsOnly (t.makeDirChain ps).2 ps := by
  induction ps with
  | nil => exact .refl t []
  | cons p ps ih =>
    have hparents := ih.mono (List.subset_cons_self p ps)
    rcases t.makeDirChain_cases p ps with ⟨-, hchain⟩ | ⟨-, e, s, hfails, hchain⟩ |
      ⟨-, s, hmade, hchain⟩
    · rw [hchain]
      exact attempt_addsOnly rfl List.mem_cons_self
    · rw [hfails] at hparents
      rwa [hchain]
    · rw [hmade] at hparents
      rw [hchain]
      exact hparents.trans (attempt_addsOnly rfl List.mem_cons_self)

/-- **What making a directory adds.** Each location stays as it was, unless it was empty and is now
    the directory or one of its ancestors. -/
theorem makeDirAll_addsOnly (t : FileTree) (dir : String) :
    t.AddsOnly (t.makeDirAll dir).2 (Path.way dir) := by
  rw [makeDirAll]
  split
  · exact .refl t _
  · split
    · exact .refl t _
    · next p hp =>
      rw [eq_parse_of_checkPath hp]
      exact t.makeDirChain_addsOnly _

end FileTree

end VisitorGen
