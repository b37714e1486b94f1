import Mathlib.Data.List.Infix
import VisitorGen.Proofs.FileTree.Growth

set_option autoImplicit false

/-! # The way through the ancestors

The parents of a path are made one from the other, each by its own text. What ties them together is
that the way to a path leads through the next one in the list (`Path.Through`,
`Path.isChain_ancestors`), although the texts are spelled differently: the path as it is written,
its ancestors by their components. -/

namespace VisitorGen

/-! ## Segments that count -/

namespace FileTree

variable {t t' : FileTree} {p q : Path} {place l : Location}

theorem walk_filter_counts (t : FileTree) (place : Location) (segments : List String) :
    t.walk place (segments.filter Path.counts) = t.walk place segments := by
  induction segments generalizing place with
  | nil => rfl
  | cons s rest ih =>
    by_cases hs : s = "" ∨ s = "."
    · rw [List.filter_cons_of_neg (by simpa [Path.counts, Classical.or_iff_not_imp_left] using hs),
        ih, walk, if_pos (by simpa using hs)]
    · rw [List.filter_cons_of_pos (by simpa [Path.counts] using hs), walk, walk]
      simp only [ih]

theorem walk_replicate_empty (t : FileTree) (place : Location) (n : Nat) :
    t.walk place (List.replicate n "") = .ok place := by
  rw [← walk_filter_counts]
  simp [Path.counts, FileTree.walk]

/-- A way leads nowhere if its beginning does. -/
theorem walk_error_of_prefix {front segments : List String} {e : IoError}
    (h : front.filter Path.counts <+: segments.filter Path.counts)
    (hfront : t.walk place front = .error e) : t.walk place segments = .error e := by
  -- both ways are those of their segments that count, and one of these lists begins the other
  obtain ⟨back, hback⟩ := h
  rw [← walk_filter_counts t place segments, ← hback, walk_append, walk_filter_counts, hfront]
  rfl

/-! ## The last segment -/

theorem exists_last_segment {segments : List String} (h : ∃ s ∈ segments, s ≠ "") :
    ∃ front last n, segments = front ++ last :: List.replicate n "" ∧ last ≠ "" := by
  induction segments using List.reverseRecOn with
  | nil => simp at h
  | append_singleton front s ih =>
    by_cases hs : s = ""
    · subst hs
      obtain ⟨front', last, n, rfl, hlast⟩ := ih (by simpa using h)
      exact ⟨front', last, n + 1, by simp [List.replicate_succ'], hlast⟩
    · exact ⟨front, s, 0, rfl, hs⟩

/-- A path is followed up to its last segment that is not empty. -/
theorem approach_eq (t : FileTree) {front : List String} {last : String} {n : Nat}
    (hp : p.segments = front ++ last :: List.replicate n "") (hlast : last ≠ "") :
    t.approach p = (t.walk (startOf p) front).map fun place =>
      if last = "." || last = ".." then .directory else .name place last (n ≠ 0) := by
  have hcore : p.segments.reverse.dropWhile (· = "") = last :: front.reverse := by
    rw [hp, List.reverse_append, List.reverse_cons, List.reverse_replicate, List.append_assoc,
      List.dropWhile_append_of_pos (by simp), List.singleton_append,
      List.dropWhile_cons_of_neg (by simpa using hlast)]
  rw [approach]
  simp only [hcore, List.reverse_reverse]
  cases t.walk (startOf p) front with
  | error e => rfl
  | ok place =>
    have hlength : (last :: front.reverse).length < p.segments.length ↔ n ≠ 0 := by
      rw [hp]
      simp
      omega
    simp only [Except.map, hlength]
    split <;> rfl

/-- A way through all segments of a path leads to a directory. -/
theorem isDirectory_of_walk (hne : ∃ s ∈ p.segments, s ≠ "")
    (hwalk : t.walk (startOf p) p.segments = .ok l) : t.isDirectory p = true := by
  obtain ⟨front, last, n, hp, hlast⟩ := exists_last_segment hne
  rw [hp, walk_append] at hwalk
  cases hfront : t.walk (startOf p) front with
  | error e => simp [hfront, Except.bind] at hwalk
  | ok place =>
    rw [isDirectory, stat, approach_eq t hp hlast, hfront]
    by_cases hdots : last = "." ∨ last = ".."
    · simp [Except.map, hdots]
    · rw [not_or] at hdots
      simp only [hfront, Except.bind, walk, hlast, hdots, decide_false, Bool.or_false,
        Bool.false_eq_true, if_false] at hwalk
      cases hentry : t.entry place last with
      | error e => simp [hentry] at hwalk
      | ok node =>
        rcases node with _ | _ | content
        · simp [hentry] at hwalk
        · simp [Except.map, hdots, hentry]
        · simp [hentry] at hwalk

end FileTree

/-! ## Ancestors -/

namespace Path

/-- The way to a path leads through another one: where that is blocked, so is the path. -/
structure Through (p q : Path) : Prop where
  named : ∃ s ∈ q.segments, s ≠ ""
  blocked : ∀ (t : FileTree) (e : IoError),
    t.walk (FileTree.startOf q) q.segments = .error e → t.approach p = .error e

/-- A path can be approached only through directories. -/
theorem Through.isDirectory {p q : Path} {t : FileTree} {ending : FileTree.Ending}
    (h : Through p q) (happroach : t.approach p = .ok ending) : t.isDirectory q = true := by
  cases hwalk : t.walk (FileTree.startOf q) q.segments with
  | ok l => exact FileTree.isDirectory_of_walk h.named hwalk
  | error e => exact absurd (happroach.symm.trans (h.blocked t e hwalk)) (by simp)

theorem through_of_prefix {p q : Path} (habsolute : p.absolute = q.absolute)
    (hne : ∃ s ∈ q.segments, s ≠ "")
    (h : q.segments.filter counts <+: (p.segments.filter counts).dropLast) : Through p q := by
  refine ⟨hne, fun t e hwalk => ?_⟩
  have hstart : FileTree.startOf p = FileTree.startOf q := by
    rw [FileTree.startOf, FileTree.startOf, habsolute]
  by_cases hp : ∃ s ∈ p.segments, s ≠ ""
  · obtain ⟨front, last, n, hsegments, hlast⟩ := FileTree.exists_last_segment hp
    -- only the last segment of the path is missing in its front
    have hlonger : (p.segments.filter counts).dropLast <+: front.filter counts := by
      have hempty : (List.replicate n "").filter counts = [] := by simp [counts]
      rw [hsegments, List.filter_append, List.filter_cons, hempty]
      split
      · rw [List.dropLast_concat]
      · rw [List.append_nil]
        exact List.dropLast_prefix _
    rw [FileTree.approach_eq t hsegments hlast, hstart,
      FileTree.walk_error_of_prefix (h.trans hlonger) hwalk]
    rfl
  · -- a path without names goes through nothing
    have hnone : p.segments.filter counts = [] := by
      rw [List.filter_eq_nil_iff]
      intro s hs
      have hempty : s = "" := by_contra fun h => hp ⟨s, hs, h⟩
      simp [hempty, counts]
    rw [hnone] at h
    have hnil : t.walk (FileTree.startOf q) [] = .error e := FileTree.walk_error_of_prefix h hwalk
    exact absurd hnil (by simp [FileTree.walk])

theorem filter_components (p : Path) :
    p.components.filter counts = p.segments.filter counts := by
  rw [components]
  cases p.segments with
  | nil => rfl
  | cons s rest =>
    have hdot : counts "." = false := by decide
    simp only [List.filter_append, List.filter_filter, Bool.and_self, List.filter_cons]
    split
    · next h =>
      rcases Bool.or_eq_true_iff.mp h with hs | hs
      · simp [hs]
      · have hs : s = "." := of_decide_eq_true (Bool.and_eq_true_iff.mp hs).1
        simp [hs, hdot]
    · next h =>
      rw [if_neg fun hs => h (by rw [hs, Bool.true_or])]
      rfl

/-- Only the first component may be a dot. -/
theorem counts_of_mem_tail_components {p : Path} {s : String} (h : s ∈ p.components.tail) :
    counts s = true := by
  obtain ⟨absolute, _ | ⟨first, rest⟩⟩ := p
  · exact absurd h List.not_mem_nil
  · have hrest : ∀ s ∈ rest.filter counts, counts s = true := fun s hs => (List.mem_filter.mp hs).2
    simp only [components] at h
    split at h
    · exact hrest s h
    · exact hrest s (List.mem_of_mem_tail h)

theorem ne_empty_of_mem_components {p : Path} {s : String} (h : s ∈ p.components) : s ≠ "" := by
  have hempty : counts "" = false := by decide
  rintro rfl
  obtain ⟨absolute, _ | ⟨first, rest⟩⟩ := p
  · exact absurd h List.not_mem_nil
  · simp only [components, List.mem_append, List.mem_filter, hempty, Bool.false_eq_true, and_false,
      or_false] at h
    split at h
    · next hfirst =>
      rw [← List.mem_singleton.mp h, hempty] at hfirst
      simp at hfirst
    · exact absurd h List.not_mem_nil

theorem mem_segments_of_mem_components {p : Path} {s : String} (h : s ∈ p.components) :
    s ∈ p.segments := by
  obtain ⟨absolute, _ | ⟨first, rest⟩⟩ := p
  · exact absurd h List.not_mem_nil
  · simp only [components, List.mem_append, List.mem_filter] at h
    rcases h with h | h
    · split at h
      · rw [List.mem_singleton.mp h]
        exact List.mem_cons_self
      · exact absurd h List.not_mem_nil
    · exact List.mem_cons_of_mem _ h.1

theorem mem_segments_of_mem_ancestors {p q : Path} {s : String} (hq : q ∈ p.ancestors)
    (hs : s ∈ q.segments) : s ∈ p.segments := by
  rw [ancestors, List.mem_filterMap] at hq
  obtain ⟨n, -, hn⟩ := hq
  split at hn
  · exact absurd hn (by simp)
  · rw [← Option.some.inj hn] at hs
    exact mem_segments_of_mem_components (List.mem_of_mem_take hs)

/-- A path with one component more is approached through the shorter one. -/
theorem through_take {p q : Path} {n : Nat} (habsolute : q.absolute = p.absolute) (hpos : 0 < n)
    (hn : n < p.components.length)
    (hq : q.segments.filter counts = (p.components.take (n + 1)).filter counts) :
    Through q ⟨p.absolute, p.components.take n⟩ := by
  refine through_of_prefix habsolute ?_ ?_
  · have hfirst : p.components[0] ∈ p.components.take n :=
      List.mem_take_iff_getElem.mpr ⟨0, by omega, rfl⟩
    exact ⟨_, hfirst, ne_empty_of_mem_components (List.getElem_mem _)⟩
  · have hcounts : counts p.components[n] = true := by
      have hlength : n - 1 < p.components.tail.length := by
        rw [List.length_tail]
        omega
      have hlast := counts_of_mem_tail_components (List.getElem_mem hlength)
      simpa only [List.getElem_tail, Nat.sub_add_cancel hpos] using hlast
    rw [hq, List.take_succ_eq_append_getElem hn, List.filter_append,
      List.filter_cons_of_pos hcounts, List.filter_nil, List.dropLast_concat]

/-- Each path in a chain of ancestors is approached only through the next one. -/
theorem isChain_ancestors (p : Path) : List.IsChain Through (p :: p.ancestors) := by
  -- the ancestors with fewer components than any number, behind a path with so many
  suffices h : ∀ n ≤ p.components.length, ∀ q : Path, q.absolute = p.absolute →
      q.segments.filter counts = (p.components.take n).filter counts →
      List.IsChain Through (q :: (List.range n).reverse.filterMap fun n =>
        if n = 0 then none else some ⟨p.absolute, p.components.take n⟩) by
    refine h _ (Nat.le_refl _) p rfl ?_
    rw [List.take_length, filter_components]
  intro n
  induction n with
  | zero => exact fun _ q _ _ => .singleton q
  | succ n ih =>
    intro hn q habsolute hq
    rw [List.range_succ, List.reverse_append, List.reverse_singleton, List.singleton_append]
    by_cases hzero : n = 0
    · subst hzero
      exact .singleton q
    · rw [List.filterMap_cons_some (by rw [if_neg hzero])]
      exact .cons_cons (through_take habsolute (Nat.pos_of_ne_zero hzero) (by omega) hq)
        (ih (by omega) _ rfl rfl)

end Path

end VisitorGen
