import VisitorGen.Proofs.FileTree.Additions

set_option autoImplicit false

/-! # Making a directory again

A directory that was made is found the next time. One that cannot be made may leave some of its
parents behind, but a second attempt adds nothing to them: where a parent cannot be made, no path
behind it can be approached (`FileTree.makeDirChain_again_of_error`). The second attempt fails for
the same cause as the first, unless the path turns back or something lies in no directory
(`FileTree.Closed.makesAlike`). -/

namespace VisitorGen

/-! ## Directories that are there -/

namespace FileTree

variable {t t' : FileTree} {p : Path} {ps : List Path} {e : IoError}

theorem isDirectory_iff : t.isDirectory p = true ↔ t.approach p = .ok .directory ∨
    ∃ place name slashed, t.approach p = .ok (.name place name slashed) ∧
      t.entry place name = .ok (some .directory) := by
  rw [isDirectory, stat]
  cases happroach : t.approach p with
  | error e => simp
  | ok ending =>
    cases ending with
    | directory => simp
    | name place name slashed =>
      cases hentry : t.entry place name with
      | error e => simp [hentry]
      | ok node =>
        rcases node with _ | _ | content
        · simp [hentry]
        · simp [hentry]
        · cases slashed <;> simp [hentry]

theorem KeepsDirectories.isDirectory (h : t.KeepsDirectories t') (hp : t.isDirectory p = true) :
    t'.isDirectory p = true := by
  rw [isDirectory_iff] at hp ⊢
  rcases hp with hp | ⟨place, name, slashed, hp, hentry⟩
  · exact Or.inl (h.approach hp)
  · obtain ⟨hsize, hnode⟩ := entry_eq_ok_iff.mp hentry
    exact Or.inr ⟨place, name, slashed, h.approach hp, entry_eq_ok_iff.mpr ⟨hsize, h _ hnode⟩⟩

theorem makeDir_of_isDirectory (h : t.isDirectory p = true) :
    t.makeDir p = .error .alreadyExists := by
  rcases isDirectory_iff.mp h with h | ⟨place, name, slashed, h, hentry⟩
  · simp [makeDir, h]
  · simp [makeDir, h, hentry]

theorem isDirectory_of_makeDir (h : t.makeDir p = .ok t') : t'.isDirectory p = true := by
  obtain ⟨place, name, slashed, happroach, hsize, hnode, rfl⟩ := makeDir_cases h
  have hdirectory : t.node? (place ++ [name]) ≠ some .directory := by simp [hnode]
  refine isDirectory_iff.mpr (Or.inr ⟨place, name, slashed, ?_, entry_eq_ok_iff.mpr ⟨hsize, ?_⟩⟩)
  · exact (keepsDirectories_set hdirectory _).approach happroach
  · rw [t.node?_set (isBase_of_not_directory hdirectory), if_pos rfl]

theorem isDirectory_of_attempt (h : t.attempt p = (.ok (), t')) : t'.isDirectory p = true := by
  rcases attempt_cases h with ⟨hmade, -⟩ | ⟨rfl, hdirectory, -⟩ | ⟨-, -, e, -, he⟩
  · exact isDirectory_of_makeDir hmade
  · exact hdirectory
  · exact absurd he (by simp)

/-- What is a directory already is found, and nothing is made. -/
theorem makeDirChain_of_isDirectory (h : t.isDirectory p = true) (ps : List Path) :
    t.makeDirChain (p :: ps) = (.ok (), t) := by
  have hthere := makeDir_of_isDirectory h
  rcases t.makeDirChain_cases p ps with ⟨-, hchain⟩ | ⟨hmissing, -⟩ | ⟨hmissing, -⟩
  · rw [hchain, attempt_of_error hthere, if_pos h]
  · exact absurd (hthere.symm.trans hmissing) (by simp)
  · exact absurd (hthere.symm.trans hmissing) (by simp)

theorem isDirectory_of_makeDirChain (h : t.makeDirChain (p :: ps) = (.ok (), t')) :
    t'.isDirectory p = true := by
  rcases t.makeDirChain_cases p ps with ⟨-, hchain⟩ | ⟨-, e, s, -, hchain⟩ | ⟨-, s, -, hchain⟩
  · exact isDirectory_of_attempt (hchain.symm.trans h)
  · exact absurd (hchain.symm.trans h) (by simp)
  · exact isDirectory_of_attempt (hchain.symm.trans h)

/-- A directory that was made is found. -/
theorem makeDirChain_again_of_ok (h : t.makeDirChain ps = (.ok (), t')) :
    t'.makeDirChain ps = (.ok (), t') := by
  cases ps with
  | nil => rfl
  | cons p ps => exact makeDirChain_of_isDirectory (isDirectory_of_makeDirChain h) ps

/-! ## A second attempt -/

/-- All that can happen when a directory cannot be made: it is blocked at once, or one of its parents
    cannot be made, or it is blocked when all of them are there. -/
theorem makeDirChain_error_cases (h : t.makeDirChain (p :: ps) = (.error e, t')) :
    t' = t ∨ (t.makeDir p = .error .notFound ∧ t.makeDirChain ps = (.error e, t')) ∨
      (t'.makeDirChain ps = (.ok (), t') ∧ t'.makeDir p = .error e ∧ t'.isDirectory p = false) := by
  rcases t.makeDirChain_cases p ps with ⟨-, hchain⟩ | ⟨hmissing, e', s, hparents, hchain⟩ |
    ⟨-, s, hparents, hchain⟩
  · rw [hchain] at h
    rcases attempt_cases h with ⟨-, he⟩ | ⟨rfl, -, -⟩ | ⟨rfl, -⟩
    · exact absurd he (by simp)
    · exact Or.inl rfl
    · exact Or.inl rfl
  · rw [hchain] at h
    exact Or.inr (Or.inl ⟨hmissing, hparents.trans h⟩)
  · rw [hchain] at h
    rcases attempt_cases h with ⟨-, he⟩ | ⟨-, -, he⟩ | ⟨rfl, hdirectory, e', hblocked, he⟩
    · exact absurd he (by simp)
    · exact absurd he (by simp)
    · rw [← Except.error.inj he] at hblocked
      exact Or.inr (Or.inr ⟨makeDirChain_again_of_ok hparents, hblocked, hdirectory⟩)

/-- A path that is blocked is given up at once. -/
theorem makeDirChain_of_blocked (hblocked : t.makeDir p = .error e) (hne : e ≠ .notFound)
    (hdirectory : t.isDirectory p = false) (ps : List Path) :
    t.makeDirChain (p :: ps) = (.error e, t) := by
  rcases t.makeDirChain_cases p ps with ⟨-, hchain⟩ | ⟨hmissing, -⟩ | ⟨hmissing, -⟩
  · rw [hchain, attempt_of_error hblocked, if_neg (by simp [hdirectory])]
  · exact absurd (Except.error.inj (hblocked.symm.trans hmissing)) hne
  · exact absurd (Except.error.inj (hblocked.symm.trans hmissing)) hne

/-- A path that cannot be made stays so when the parents are there. -/
theorem makeDirChain_of_parents (hparents : t.makeDirChain ps = (.ok (), t))
    (hblocked : t.makeDir p = .error e) (hdirectory : t.isDirectory p = false) :
    t.makeDirChain (p :: ps) = (.error e, t) := by
  have hgivenUp : t.attempt p = (.error e, t) := by
    rw [attempt_of_error hblocked, if_neg (by simp [hdirectory])]
  rcases t.makeDirChain_cases p ps with ⟨-, hchain⟩ | ⟨-, e', s, hfails, -⟩ | ⟨-, s, hmade, hchain⟩
  · rw [hchain, hgivenUp]
  · exact absurd (hparents.symm.trans hfails) (by simp)
  · obtain ⟨-, rfl⟩ := Prod.mk.inj (hparents.symm.trans hmade)
    rw [hchain, hgivenUp]

/-- A path that cannot be approached cannot be made, unless its parents can. -/
theorem makeDirChain_of_approach {e' : IoError} (happroach : t.approach p = .error e)
    (hparents : t.makeDirChain ps = (.error e', t)) :
    t.makeDirChain (p :: ps) = (.error (if e = .notFound then e' else e), t) := by
  have hblocked : t.makeDir p = .error e := by simp [makeDir, happroach]
  by_cases hne : e = .notFound
  · rw [if_pos hne]
    rw [hne] at hblocked
    rcases t.makeDirChain_cases p ps with ⟨hfound, -⟩ | ⟨-, e, s, hfails, hchain⟩ | ⟨-, s, hmade, -⟩
    · exact absurd hblocked hfound
    · rw [hchain, ← hfails, hparents]
    · exact absurd (hparents.symm.trans hmade) (by simp)
  · rw [if_neg hne]
    exact makeDirChain_of_blocked hblocked hne (by simp [isDirectory, stat, happroach]) ps

/-- If a parent cannot be made, the path cannot be approached. -/
theorem exists_approach_error {e' : IoError} (hthrough : List.IsChain Path.Through (p :: ps))
    (hparents : t.makeDirChain ps = (.error e', t)) : ∃ e, t.approach p = .error e := by
  cases happroach : t.approach p with
  | error e => exact ⟨e, rfl⟩
  | ok ending =>
    cases hthrough with
    | singleton => exact absurd hparents (by simp [makeDirChain])
    | cons_cons hq _ =>
      rw [makeDirChain_of_isDirectory (hq.isDirectory happroach)] at hparents
      exact absurd hparents (by simp)

/-- A second attempt fails too, and makes nothing. -/
theorem makeDirChain_again_of_error (hthrough : List.IsChain Path.Through ps)
    (h : t.makeDirChain ps = (.error e, t')) : ∃ e', t'.makeDirChain ps = (.error e', t') := by
  induction ps generalizing e with
  | nil => exact absurd h (by simp [makeDirChain])
  | cons p ps ih =>
    rcases makeDirChain_error_cases h with rfl | ⟨-, hparents⟩ | ⟨hparents, hblocked, hdirectory⟩
    · exact ⟨e, h⟩
    · -- the path is still out of reach, so nothing but its parents is tried, and they fail
      obtain ⟨e', hagain⟩ := ih hthrough.of_cons hparents
      obtain ⟨_, happroach⟩ := exists_approach_error hthrough hagain
      exact ⟨_, makeDirChain_of_approach happroach hagain⟩
    · exact ⟨e, makeDirChain_of_parents hparents hblocked hdirectory⟩

/-! ## The same cause -/

/-- Everything in the tree lies in a directory. -/
def Closed (t : FileTree) : Prop :=
  ∀ place name, t.node? (place ++ [name]) ≠ none → t.node? place = some .directory

/-- A way that never turns back leads to each directory of a closed tree that it leads to in any
    other. -/
theorem Closed.walk {place l : Location} {segments : List String} (hclosed : t.Closed)
    (hdots : ".." ∉ segments) (hwalk : t'.walk place segments = .ok l)
    (hnode : t.node? l = some .directory) : t.walk place segments = .ok l := by
  induction segments using List.reverseRecOn generalizing l with
  | nil => exact hwalk
  | append_singleton front s ih =>
    rw [List.mem_append, List.mem_singleton, not_or] at hdots
    rw [walk_append] at hwalk ⊢
    cases hfront : t'.walk place front with
    | error e => simp [hfront, Except.bind] at hwalk
    | ok l' =>
      simp only [hfront, Except.bind, FileTree.walk, if_neg (Ne.symm hdots.2)] at hwalk
      split at hwalk
      · next hs =>
        rw [ih hdots.1 hfront (by rwa [Except.ok.inj hwalk])]
        simp only [Except.bind, FileTree.walk, if_pos hs, hwalk]
      · next hs =>
        split at hwalk
        · exact absurd hwalk (by simp)
        · exact absurd hwalk (by simp)
        · exact absurd hwalk (by simp)
        · next hentry =>
          -- the directory lies in another one, to which the way leads as well
          obtain ⟨hsize, -⟩ := entry_eq_ok_iff.mp hentry
          obtain rfl := Except.ok.inj hwalk
          rw [ih hdots.1 hfront (hclosed l' s (by simp [hnode]))]
          simp only [Except.bind, FileTree.walk, if_neg hs, if_neg (Ne.symm hdots.2),
            entry_eq_ok_iff.mpr ⟨hsize, hnode⟩]

/-- A path whose way is blocked cannot be made, for the same cause. The way cannot end at a file,
    since that would be one in the closed tree before as well. -/
theorem Closed.makeDirChain_of_walk (hclosed : t.Closed)
    (hadds : t.AddsOnly t' ps) (hne : ∃ s ∈ p.segments, s ≠ "") (hdots : ".." ∉ p.segments)
    (hfree : t.walk (startOf p) p.segments ≠ .error .notADirectory)
    (hwalk : t'.walk (startOf p) p.segments = .error e) (hblocked : e ≠ .notFound)
    (qs : List Path) : t'.makeDirChain (p :: qs) = (.error e, t') := by
  obtain ⟨front, last, n, hp, hlast⟩ := exists_last_segment hne
  have hlastdots : last ≠ ".." := by
    rintro rfl
    exact hdots (by simp [hp])
  have happroach := approach_eq t' hp hlast
  rw [hp, walk_append] at hwalk hfree
  cases hfront : t'.walk (startOf p) front with
  | error e' =>
    obtain rfl : e' = e := by simpa [hfront, Except.bind] using hwalk
    rw [hfront] at happroach
    exact makeDirChain_of_blocked (by simp [makeDir, happroach, Except.map]) hblocked
      (by simp [isDirectory, stat, happroach, Except.map]) qs
  | ok place =>
    rw [hfront] at happroach
    simp only [hfront, Except.bind, FileTree.walk, hlast, hlastdots, decide_false, Bool.false_or,
      if_false, walk_replicate_empty] at hwalk
    by_cases hdot : last = "."
    · simp [hdot] at hwalk
    · simp only [hdot, hlastdots, decide_false, Bool.or_self, Bool.false_eq_true, if_false,
        Except.map] at hwalk happroach
      cases hentry : t'.entry place last with
      | error e' =>
        obtain rfl : e' = e := by simpa [hentry] using hwalk
        exact makeDirChain_of_blocked (by simp [makeDir, happroach, hentry]) hblocked
          (by simp [isDirectory, stat, happroach, hentry]) qs
      | ok node =>
        rcases node with _ | _ | content
        · exact absurd (by simpa [hentry] using hwalk.symm) hblocked
        · simp [hentry] at hwalk
        · -- in the closed tree before, the way would have come to the file as well
          exfalso
          obtain ⟨hsize, hnode⟩ := entry_eq_ok_iff.mp hentry
          have hfile := hadds.file hnode
          have hplace : t.node? place = some .directory := hclosed place last (by simp [hfile])
          have hbefore : ".." ∉ front := fun h => hdots (by simp [hp, h])
          apply hfree
          rw [hclosed.walk hbefore hfront hplace]
          simp only [Except.bind, FileTree.walk, hlast, hdot, hlastdots, decide_false,
            Bool.or_self, Bool.false_eq_true, if_false, entry_eq_ok_iff.mpr ⟨hsize, hfile⟩]

/-- In a closed tree a second attempt fails for the same cause, if no path turns back. -/
theorem Closed.makeDirChain_again (hclosed : t.Closed)
    (hthrough : List.IsChain Path.Through ps) (hdots : ∀ p ∈ ps, ".." ∉ p.segments)
    (h : t.makeDirChain ps = (.error e, t')) : t'.makeDirChain ps = (.error e, t') := by
  induction ps generalizing e with
  | nil => exact absurd h (by simp [makeDirChain])
  | cons p ps ih =>
    have hadds : t.AddsOnly t' (p :: ps) := by
      simpa only [h] using t.makeDirChain_addsOnly (p :: ps)
    rcases makeDirChain_error_cases h with rfl | ⟨hmissing, hparents⟩ |
      ⟨hparents, hblocked, hdirectory⟩
    · exact h
    · -- the parents fail for the same cause, and what blocks the way to the path blocks them too
      have hagain := ih hthrough.of_cons (fun q hq => hdots q (List.mem_cons_of_mem _ hq)) hparents
      obtain ⟨e', happroach⟩ := exists_approach_error hthrough hagain
      rw [makeDirChain_of_approach happroach hagain]
      cases hthrough with
      | singleton => exact absurd hagain (by simp [makeDirChain])
      | @cons_cons _ q rest hq _ =>
        cases hwalk : t'.walk (startOf q) q.segments with
        | ok l =>
          rw [makeDirChain_of_isDirectory (isDirectory_of_walk hq.named hwalk)] at hagain
          exact absurd hagain (by simp)
        | error w =>
          obtain rfl : e' = w := Except.error.inj (happroach.symm.trans (hq.blocked t' w hwalk))
          by_cases hnotFound : e' = .notFound
          · rw [if_pos hnotFound]
          · have hfree : t.walk (startOf q) q.segments ≠ .error .notADirectory := by
              intro hfile
              have hp := hq.blocked t _ hfile
              simp [makeDir, hp] at hmissing
            have hmade := hclosed.makeDirChain_of_walk hadds hq.named (hdots q (by simp)) hfree
              hwalk hnotFound rest
            rw [hagain, Prod.mk.injEq, Except.error.injEq] at hmade
            rw [if_neg hnotFound, hmade.1]
    · exact makeDirChain_of_parents hparents hblocked hdirectory

/-! ## Directories by their texts -/

/-- A second attempt at making a directory ends like the first one. -/
def MakesAlike (t : FileTree) (dir : String) : Prop :=
  ((t.makeDirAll dir).2.makeDirAll dir).1 = (t.makeDirAll dir).1

/-- A directory that was made is found as long as the directories are kept. -/
theorem makeDirAll_of_keepsDirectories {s : FileTree} {dir : String}
    (h : t.makeDirAll dir = (.ok (), t')) (hkeeps : t'.KeepsDirectories s) :
    s.makeDirAll dir = (.ok (), s) := by
  rw [makeDirAll] at h ⊢
  split at h
  · next hempty => rw [if_pos hempty]
  · next hempty =>
    rw [if_neg hempty]
    split at h
    · exact absurd h (by simp)
    · next p hp =>
      exact makeDirChain_of_isDirectory (hkeeps.isDirectory (isDirectory_of_makeDirChain h)) _

/-- Where a directory could not be made, a second attempt fails too, and makes nothing. -/
theorem makeDirAll_again_of_error {dir : String} (h : t.makeDirAll dir = (.error e, t')) :
    ∃ e', t'.makeDirAll dir = (.error e', t') := by
  rw [makeDirAll] at h ⊢
  split at h
  · exact absurd h (by simp)
  · next hempty =>
    rw [if_neg hempty]
    split at h
    · exact ⟨_, rfl⟩
    · next p hp => exact makeDirChain_again_of_error p.isChain_ancestors h

theorem makesAlike_of_ok {dir : String} (h : (t.makeDirAll dir).1 = .ok ()) : t.MakesAlike dir := by
  have hmade : t.makeDirAll dir = (.ok (), (t.makeDirAll dir).2) := Prod.ext h rfl
  rw [MakesAlike, makeDirAll_of_keepsDirectories hmade (fun _ h => h), h]

/-- In a closed tree all attempts at a directory end alike, unless its path turns back. -/
theorem Closed.makesAlike (hclosed : t.Closed) {dir : String}
    (hdots : ".." ∉ (Path.parse dir).segments) : t.MakesAlike dir := by
  cases hmade : t.makeDirAll dir with
  | mk r t' =>
    cases r with
    | ok _ => exact makesAlike_of_ok (by rw [hmade])
    | error e =>
      rw [MakesAlike, hmade]
      rw [makeDirAll] at hmade ⊢
      split at hmade
      · exact absurd hmade (by simp)
      · next hempty =>
        rw [if_neg hempty]
        split at hmade
        · exact hmade.symm ▸ rfl
        · next p hp =>
          rw [hclosed.makeDirChain_again p.isChain_ancestors ?_ hmade]
          rw [← eq_parse_of_checkPath hp] at hdots
          intro q hq hs
          rcases List.mem_cons.mp hq with rfl | hq
          · exact hdots hs
          · exact hdots (Path.mem_segments_of_mem_ancestors hq hs)

end FileTree

end VisitorGen
