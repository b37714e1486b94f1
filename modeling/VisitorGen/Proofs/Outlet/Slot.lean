import VisitorGen.Proofs.FileTree.Making
import VisitorGen.Proofs.Outlet.Directory

set_option autoImplicit false

/-! # Where units go

Once a directory has been made, or has been found to be impossible to make, the tree is *settled*:
every plain name has its slot below the directory, or an error in place of one, and writing a unit
does nothing but fill its slot. That gives no other name another slot, so a settled tree stays so
(`FileTree.Settled.set`), and what becomes of a unit does not depend on the units before it. -/

namespace VisitorGen

namespace FileTree

variable {t : FileTree} {dir name other : String} {place l : Location}

/-! ## Slots -/

/-- The location of a name in the directory at a location, if a file can stand there. -/
def slotIn (t : FileTree) (place : Location) (name : String) : Except IoError Location :=
  match t.entry place name with
  | .error e => .error e
  | .ok (some .directory) => .error .isADirectory
  | .ok _ => .ok (place ++ [name])

/-- The location of a name below a directory, if the directory is there or can be made, and a file
    can stand there. -/
def slot (t : FileTree) (dir name : String) : Except IoError Location :=
  match (t.makeDirAll dir).1 with
  | .error e => .error e
  | .ok () =>
    match checkPath (Path.join dir name) with
    | .error e => .error e
    | .ok _ =>
      match t.placeOf dir with
      | .error e => .error e
      | .ok place => t.slotIn place name

theorem slotIn_eq_ok (h : t.slotIn place name = .ok l) :
    l = place ++ [name] ∧ t.node? l ≠ some .directory := by
  rw [slotIn] at h
  split at h
  · exact absurd h (by simp)
  · exact absurd h (by simp)
  · next hnode hentry =>
    obtain ⟨-, rfl⟩ := entry_eq_ok_iff.mp hentry
    obtain rfl := Except.ok.inj h
    exact ⟨rfl, hnode⟩

theorem slot_eq_ok (h : t.slot dir name = .ok l) : (t.makeDirAll dir).1 = .ok () ∧
    ∃ place, t.placeOf dir = .ok place ∧ t.slotIn place name = .ok l := by
  rw [slot] at h
  split at h
  · exact absurd h (by simp)
  · next hmade =>
    split at h
    · exact absurd h (by simp)
    · split at h
      · exact absurd h (by simp)
      · next place hplace => exact ⟨hmade, place, hplace, h⟩

/-- A slot is no directory. -/
theorem node?_slot (h : t.slot dir name = .ok l) : t.node? l ≠ some .directory := by
  obtain ⟨-, place, -, hin⟩ := slot_eq_ok h
  exact (slotIn_eq_ok hin).2

/-- Different names have different slots. -/
theorem slot_inj (h : t.slot dir name = .ok l) (hother : t.slot dir other = .ok l) :
    name = other := by
  obtain ⟨-, place, hplace, hin⟩ := slot_eq_ok h
  obtain ⟨-, place', hplace', hin'⟩ := slot_eq_ok hother
  obtain rfl := Except.ok.inj (hplace.symm.trans hplace')
  have heq := (slotIn_eq_ok hin).1.symm.trans (slotIn_eq_ok hin').1
  simpa using heq

/-- A file that fills its slot changes no slot in the directory. -/
theorem slotIn_set (h : t.slotIn place name = .ok l) (content : ByteArray) (other : String) :
    (t.set l (.file content)).slotIn place other = t.slotIn place other := by
  obtain ⟨rfl, hnode⟩ := slotIn_eq_ok h
  have hset := t.node?_set (isBase_of_not_directory hnode) (.file content) (place ++ [other])
  rw [slotIn, slotIn, entry, entry, hset]
  by_cases hlong : maxNameBytes < other.utf8ByteSize
  · rw [if_pos hlong, if_pos hlong]
  · rw [if_neg hlong, if_neg hlong]
    by_cases heq : place ++ [other] = place ++ [name]
    · -- a file that is there may be written anew
      rw [if_pos heq, heq]
      cases hbefore : t.node? (place ++ [name]) with
      | none => rfl
      | some node =>
        cases node with
        | directory => exact absurd hbefore hnode
        | file _ => rfl
    · rw [if_neg heq]

/-- Writing a plain name fills its slot. -/
theorem writeFile_join (h : Path.IsPlain name) (hmade : (t.makeDirAll dir).1 = .ok ())
    (content : ByteArray) : t.writeFile (Path.join dir name) content =
      (t.slot dir name).map fun l => t.set l (.file content) := by
  rw [writeFile, slot, hmade]
  cases hpath : checkPath (Path.join dir name) with
  | error e => rfl
  | ok p =>
    rw [eq_parse_of_checkPath hpath]
    simp only [approach_join t h]
    cases t.placeOf dir with
    | error e => rfl
    | ok place =>
      simp only [Except.map, slotIn]
      cases t.entry place name with
      | error e => rfl
      | ok node => rcases node with _ | _ | _ <;> rfl

/-! ## Settled trees -/

/-- An attempt at making the directory changes nothing, and these are the slots below it. -/
structure Settled (t : FileTree) (dir : String) (slots : String → Except IoError Location) :
    Prop where
  made : (t.makeDirAll dir).2 = t
  slot_eq : ∀ name, t.slot dir name = slots name

/-- An attempt at making the directory settles the tree. -/
theorem settled_makeDirAll (t : FileTree) (dir : String) :
    (t.makeDirAll dir).2.Settled dir ((t.makeDirAll dir).2.slot dir) := by
  refine ⟨?_, fun _ => rfl⟩
  cases hmade : t.makeDirAll dir with
  | mk r t' =>
    cases r with
    | ok _ => rw [makeDirAll_of_keepsDirectories hmade fun _ h => h]
    | error e =>
      obtain ⟨e', hagain⟩ := makeDirAll_again_of_error hmade
      rw [hagain]

variable {slots : String → Except IoError Location}

/-- A settled tree stays so when a slot is filled. -/
theorem Settled.set (h : t.Settled dir slots) (hslot : slots name = .ok l) (content : ByteArray) :
    (t.set l (.file content)).Settled dir slots := by
  rw [← h.slot_eq] at hslot
  have hkeeps := keepsDirectories_set (node?_slot hslot) (.file content)
  obtain ⟨hmade, place, hplace, hin⟩ := slot_eq_ok hslot
  have hagain := makeDirAll_of_keepsDirectories (Prod.ext hmade h.made) hkeeps
  refine ⟨by rw [hagain], fun other => ?_⟩
  have hplace' : (t.set l (.file content)).placeOf dir = .ok place := hkeeps.walk hplace
  rw [← h.slot_eq other, slot, slot, hagain, hmade, hplace', hplace]
  simp only [slotIn_set hin]

theorem Settled.node?_slot (h : t.Settled dir slots) (hslot : slots name = .ok l) :
    t.node? l ≠ some .directory :=
  FileTree.node?_slot ((h.slot_eq name).trans hslot)

theorem Settled.name_eq (h : t.Settled dir slots) (hslot : slots name = .ok l)
    (hother : slots other = .ok l) : name = other :=
  slot_inj ((h.slot_eq name).trans hslot) ((h.slot_eq other).trans hother)

end FileTree

/-! ## Writing units -/

variable {t : FileTree} {dir : String} {slots : String → Except IoError Location} {u : SourceUnit}

/-- In a settled tree a unit fills its slot, or it fails and nothing changes. -/
theorem FileTree.Settled.write (h : t.Settled dir slots) (hu : Path.IsPlain u.fileName) :
    (Outlet.directory dir).write t u = match slots u.fileName with
      | .error e => (.error e, t)
      | .ok l => (.ok (), t.set l (.file u.source.toUTF8)) := by
  rw [← h.slot_eq]
  cases hmade : t.makeDirAll dir with
  | mk r t' =>
    obtain rfl : t' = t := by rw [← h.made, hmade]
    cases r with
    | error e => simp [Outlet.directory, FileTree.slot, hmade]
    | ok _ =>
      simp only [Outlet.directory, hmade, SourceUnit.pathIn,
        FileTree.writeFile_join hu (congrArg Prod.fst hmade)]
      cases t'.slot dir u.fileName <;> rfl

/-- A unit is written into any tree as it is into the settled one, except that the causes of a
    failure may differ if the directory cannot be made. -/
theorem Outlet.directory_write_eq (dir : String) (t : FileTree) (u : SourceUnit) :
    (directory dir).write t u = (directory dir).write (t.makeDirAll dir).2 u ∨
      ¬ t.MakesAlike dir ∧ ∃ e e' t', (directory dir).write t u = (.error e, t') ∧
        (directory dir).write (t.makeDirAll dir).2 u = (.error e', t') := by
  cases hmade : t.makeDirAll dir with
  | mk r t' =>
    cases r with
    | ok _ =>
      have hagain := FileTree.makeDirAll_of_keepsDirectories hmade fun _ h => h
      simp [directory, hmade, hagain]
    | error e =>
      obtain ⟨e', hagain⟩ := FileTree.makeDirAll_again_of_error hmade
      by_cases heq : e' = e
      · simp [directory, hmade, hagain, heq]
      · simp [directory, hmade, hagain, FileTree.MakesAlike, heq]

end VisitorGen
