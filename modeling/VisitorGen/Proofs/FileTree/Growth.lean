import Mathlib.Tactic.Common
import VisitorGen.Proofs.FileTree.Join

set_option autoImplicit false

/-! # How trees change

Making a directory adds a node to a tree where there was none, and writing a file changes one node
that is no directory. Both keep the directories that are there, so a path that could be followed
before leads to the same place afterwards, and a file keeps its content until its own name is
written. -/

namespace VisitorGen

namespace FileTree

/-! ## Growing trees -/

/-- Every node of the old tree is in the new one. -/
def Extends (t t' : FileTree) : Prop :=
  ∀ place node, t.node? place = some node → t'.node? place = some node

/-- Every directory of the old tree is one in the new tree. -/
def KeepsDirectories (t t' : FileTree) : Prop :=
  ∀ place, t.node? place = some .directory → t'.node? place = some .directory

theorem Extends.keepsDirectories {t t' : FileTree} (h : t.Extends t') : t.KeepsDirectories t' :=
  fun place => h place .directory

theorem isBase_of_not_directory {t : FileTree} {place : Location}
    (h : t.node? place ≠ some .directory) : place.isBase = false := by
  by_contra hbase
  rw [Bool.not_eq_false] at hbase
  exact h (by rw [node?, if_pos hbase])

theorem keepsDirectories_set {t : FileTree} {place : Location}
    (h : t.node? place ≠ some .directory) (node : Node) : t.KeepsDirectories (t.set place node) := by
  intro l hl
  rw [t.node?_set (isBase_of_not_directory h)]
  split
  · next heq => exact absurd hl (by rwa [heq])
  · exact hl

theorem setNode_of_findNode {place : Location} {node : Node} {nodes : List (Location × Node)}
    (h : findNode place nodes = some node) : setNode place node nodes = nodes := by
  induction nodes with
  | nil => exact absurd h (by simp [findNode])
  | cons p rest ih =>
    obtain ⟨l, n⟩ := p
    rw [findNode] at h
    rw [setNode]
    split at h
    · next hl => rw [if_pos hl, Option.some.inj h]
    · next hl => rw [if_neg hl, ih h]

/-- A tree stays as it is when a node is set that is there already. -/
theorem set_eq_self {t : FileTree} {place : Location} {node : Node} (hbase : place.isBase = false)
    (h : t.node? place = some node) : t.set place node = t := by
  rw [node?, hbase] at h
  rw [set, setNode_of_findNode h]

/-! ## Following paths in a larger tree -/

theorem entry_eq_ok_iff {t : FileTree} {place : Location} {name : String} {node? : Option Node} :
    t.entry place name = .ok node? ↔
      name.utf8ByteSize ≤ maxNameBytes ∧ t.node? (place ++ [name]) = node? := by
  rw [entry]
  split
  · next h => simp [Nat.not_le.mpr h]
  · next h => simp [Nat.not_lt.mp h]

theorem KeepsDirectories.walk {t t' : FileTree} (h : t.KeepsDirectories t') {segments : List String}
    {place l : Location} (hwalk : t.walk place segments = .ok l) : t'.walk place segments = .ok l := by
  induction segments generalizing place with
  | nil => exact hwalk
  | cons s rest ih =>
    rw [FileTree.walk] at hwalk ⊢
    split at hwalk
    · next hs => rw [if_pos hs]; exact ih hwalk
    · next hs =>
      rw [if_neg hs]
      split at hwalk
      · next hdots => rw [if_pos hdots]; exact ih hwalk
      · next hdots =>
        rw [if_neg hdots]
        split at hwalk
        · exact absurd hwalk (by simp)
        · exact absurd hwalk (by simp)
        · exact absurd hwalk (by simp)
        · next hentry =>
          -- the step enters a directory, which is one in the new tree too
          obtain ⟨hsize, hnode⟩ := entry_eq_ok_iff.mp hentry
          rw [entry_eq_ok_iff.mpr ⟨hsize, h _ hnode⟩]
          exact ih hwalk

theorem KeepsDirectories.approach {t t' : FileTree} (h : t.KeepsDirectories t') {p : Path}
    {ending : Ending} (hp : t.approach p = .ok ending) : t'.approach p = .ok ending := by
  rw [FileTree.approach] at hp ⊢
  split at hp
  · exact hp
  · split at hp
    · exact absurd hp (by simp)
    · next hwalk =>
      rw [h.walk hwalk]
      exact hp

/-! ## Making directories -/

/-- All that making a directory can do when it succeeds. -/
theorem makeDir_cases {t t' : FileTree} {p : Path} (h : t.makeDir p = .ok t') :
    ∃ place name slashed, t.approach p = .ok (.name place name slashed) ∧
      name.utf8ByteSize ≤ maxNameBytes ∧ t.node? (place ++ [name]) = none ∧
      t' = t.set (place ++ [name]) .directory := by
  rw [makeDir] at h
  split at h
  · exact absurd h (by simp)
  · exact absurd h (by simp)
  · next place name slashed happroach =>
    split at h
    · exact absurd h (by simp)
    · exact absurd h (by simp)
    · next hentry =>
      obtain ⟨hsize, hnode⟩ := entry_eq_ok_iff.mp hentry
      exact ⟨place, name, slashed, happroach, hsize, hnode, (Except.ok.inj h).symm⟩

/-- One attempt at a directory. Nothing is wrong with one that cannot be made because it is there. -/
def attempt (t : FileTree) (p : Path) : Except IoError Unit × FileTree :=
  match t.makeDir p with
  | .ok made => (.ok (), made)
  | .error e => (if t.isDirectory p then .ok () else .error e, t)

theorem attempt_of_ok {t made : FileTree} {p : Path} (h : t.makeDir p = .ok made) :
    t.attempt p = (.ok (), made) := by
  rw [attempt, h]

theorem attempt_of_error {t : FileTree} {p : Path} {e : IoError} (h : t.makeDir p = .error e) :
    t.attempt p = (if t.isDirectory p then .ok () else .error e, t) := by
  rw [attempt, h]

/-- All that an attempt can do: the directory is made, or it is there, or it is blocked. -/
theorem attempt_cases {t t' : FileTree} {p : Path} {result : Except IoError Unit}
    (h : t.attempt p = (result, t')) :
    (t.makeDir p = .ok t' ∧ result = .ok ()) ∨
      (t' = t ∧ t.isDirectory p = true ∧ result = .ok ()) ∨
      (t' = t ∧ t.isDirectory p = false ∧ ∃ e, t.makeDir p = .error e ∧ result = .error e) := by
  rw [attempt] at h
  split at h
  · next made hmade =>
    obtain ⟨rfl, rfl⟩ := Prod.mk.inj h
    exact Or.inl ⟨hmade, rfl⟩
  · next e hblocked =>
    obtain ⟨rfl, rfl⟩ := Prod.mk.inj h
    cases hdirectory : t.isDirectory p with
    | true => exact Or.inr (Or.inl ⟨rfl, rfl, by simp⟩)
    | false => exact Or.inr (Or.inr ⟨rfl, rfl, e, hblocked, by simp⟩)

/-- All that making a directory with its parents can do: it is attempted at once, or its parents are
    missing and cannot be made, or it is attempted behind them. -/
theorem makeDirChain_cases (t : FileTree) (p : Path) (ps : List Path) :
    (t.makeDir p ≠ .error .notFound ∧ t.makeDirChain (p :: ps) = t.attempt p) ∨
      (t.makeDir p = .error .notFound ∧ ∃ e t', t.makeDirChain ps = (.error e, t') ∧
        t.makeDirChain (p :: ps) = (.error e, t')) ∨
      (t.makeDir p = .error .notFound ∧ ∃ t', t.makeDirChain ps = (.ok (), t') ∧
        t.makeDirChain (p :: ps) = t'.attempt p) := by
  rw [makeDirChain]
  split
  · next hmade => exact Or.inl ⟨by simp [hmade], (attempt_of_ok hmade).symm⟩
  · next hmissing =>
    refine Or.inr ?_
    split
    · next e t' hparents => exact Or.inl ⟨hmissing, e, t', hparents, rfl⟩
    · next t' hparents =>
      refine Or.inr ⟨hmissing, t', hparents, ?_⟩
      split
      · next hmade => exact (attempt_of_ok hmade).symm
      · next hblocked => exact (attempt_of_error hblocked).symm
  · next e hne hblocked =>
    exact Or.inl ⟨by simpa [hblocked] using hne, (attempt_of_error hblocked).symm⟩

/-! ## Reading and writing files -/

theorem eq_parse_of_checkPath {text : String} {p : Path} (h : checkPath text = .ok p) :
    p = .parse text := by
  rw [checkPath] at h
  split at h
  · exact absurd h (by simp)
  · split at h
    · exact absurd h (by simp)
    · exact (Except.ok.inj h).symm

theorem readFile_eq_ok_iff {t : FileTree} {text : String} {content : ByteArray} :
    t.readFile text = .ok content ↔ ∃ p place name, checkPath text = .ok p ∧
      t.approach p = .ok (.name place name false) ∧
      t.entry place name = .ok (some (.file content)) := by
  constructor
  · intro h
    rw [readFile] at h
    split at h
    · exact absurd h (by simp)
    · next p hp =>
      rw [stat] at h
      split at h
      · exact absurd h (by simp)
      · exact absurd h (by simp)
      · next hstat =>
        split at hstat
        · exact absurd hstat (by simp)
        · exact absurd hstat (by simp)
        · next place name slashed happroach =>
          split at hstat
          · exact absurd hstat (by simp)
          · exact absurd hstat (by simp)
          · exact absurd hstat (by simp)
          · next hentry =>
            cases slashed with
            | true => exact absurd hstat (by simp)
            | false =>
              simp only [Bool.false_eq_true, if_false, Except.ok.injEq, Node.file.injEq] at hstat h
              subst hstat h
              exact ⟨p, place, name, hp, happroach, hentry⟩
  · rintro ⟨p, place, name, hp, happroach, hentry⟩
    simp [readFile, stat, hp, happroach, hentry]

/-- All that a write can do when it succeeds. -/
theorem writeFile_cases {t t' : FileTree} {text : String} {content : ByteArray}
    (h : t.writeFile text content = .ok t') : ∃ p place name, checkPath text = .ok p ∧
      t.approach p = .ok (.name place name false) ∧ name.utf8ByteSize ≤ maxNameBytes ∧
      t.node? (place ++ [name]) ≠ some .directory ∧ t' = t.set (place ++ [name]) (.file content) := by
  rw [writeFile] at h
  split at h
  · exact absurd h (by simp)
  · next p hp =>
    split at h
    · exact absurd h (by simp)
    · exact absurd h (by simp)
    · next place name slashed happroach =>
      cases slashed with
      | true => exact absurd h (by simp)
      | false =>
        simp only [Bool.false_eq_true, if_false] at h
        split at h
        · exact absurd h (by simp)
        · exact absurd h (by simp)
        · next hnode hentry =>
          obtain ⟨hsize, rfl⟩ := entry_eq_ok_iff.mp hentry
          exact ⟨p, place, name, hp, happroach, hsize, hnode, (Except.ok.inj h).symm⟩

/-- A file keeps its content as the tree grows. -/
theorem Extends.readFile {t t' : FileTree} (h : t.Extends t') {text : String} {content : ByteArray}
    (hread : t.readFile text = .ok content) : t'.readFile text = .ok content := by
  obtain ⟨p, place, name, hp, happroach, hentry⟩ := readFile_eq_ok_iff.mp hread
  obtain ⟨hsize, hnode⟩ := entry_eq_ok_iff.mp hentry
  exact readFile_eq_ok_iff.mpr ⟨p, place, name, hp, h.keepsDirectories.approach happroach,
    entry_eq_ok_iff.mpr ⟨hsize, h _ _ hnode⟩⟩

/-- A file that was written has the content that was written. -/
theorem readFile_writeFile {t t' : FileTree} {text : String} {content : ByteArray}
    (h : t.writeFile text content = .ok t') : t'.readFile text = .ok content := by
  obtain ⟨p, place, name, hp, happroach, hsize, hnode, rfl⟩ := writeFile_cases h
  refine readFile_eq_ok_iff.mpr ⟨p, place, name, hp, ?_, entry_eq_ok_iff.mpr ⟨hsize, ?_⟩⟩
  · exact (keepsDirectories_set hnode _).approach happroach
  · rw [t.node?_set (isBase_of_not_directory hnode), if_pos rfl]

/-- Writing a file leaves the other plain names below the directory as they are. -/
theorem readFile_writeFile_of_ne {t t' : FileTree} {dir name other : String}
    {content before : ByteArray} (hname : Path.IsPlain name) (hother : Path.IsPlain other)
    (hne : other ≠ name) (h : t.writeFile (Path.join dir name) content = .ok t')
    (hread : t.readFile (Path.join dir other) = .ok before) :
    t'.readFile (Path.join dir other) = .ok before := by
  obtain ⟨p, place, n, hp, happroach, -, hnode, rfl⟩ := writeFile_cases h
  obtain ⟨q, place', m, hq, happroach', hentry⟩ := readFile_eq_ok_iff.mp hread
  have hkept := (keepsDirectories_set hnode (.file content)).approach happroach'
  -- both names stand in the place of the directory, so they are different locations
  rw [eq_parse_of_checkPath hp, approach_join t hname] at happroach
  rw [eq_parse_of_checkPath hq, approach_join t hother] at happroach'
  cases hplace : t.placeOf dir with
  | error e => simp [hplace, Except.map] at happroach
  | ok l =>
    rw [hplace] at happroach happroach'
    simp only [Except.map, Except.ok.injEq, Ending.name.injEq] at happroach happroach'
    obtain ⟨rfl, rfl, -⟩ := happroach
    obtain ⟨rfl, rfl, -⟩ := happroach'
    obtain ⟨hsize, hfile⟩ := entry_eq_ok_iff.mp hentry
    refine readFile_eq_ok_iff.mpr ⟨q, l, other, hq, hkept, entry_eq_ok_iff.mpr ⟨hsize, ?_⟩⟩
    rw [t.node?_set (isBase_of_not_directory hnode), if_neg (by simpa using hne)]
    exact hfile

end FileTree

end VisitorGen
