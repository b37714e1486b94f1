import VisitorGen.Proofs.FileTree.Join
import VisitorGen.Proofs.Layout
import VisitorGen.Proofs.Text.SnakeCase

set_option autoImplicit false

/-! # Units and their names

A generated unit bears the name of its family in its source text, and in its file name as the target
spells it. The file names of C# tell families apart. Those of Rust are in snake case, where families
meet whose names differ in case or in underscores alone (`Target.fileName_eq_iff`), although the
source texts still tell them apart (`Target.source_ne`). -/

namespace VisitorGen

open Text

/-! ## What a unit is made of -/

theorem Family.name_of_read {name : String} {lines : List String} {f : Family}
    (h : Family.read name lines = .ok f) : f.name = name ∧ isIdentifier name.toList = true := by
  rw [Family.read] at h
  split at h
  · next hname =>
    split at h
    · exact absurd h (by simp)
    · rw [← Except.ok.inj h]
      exact ⟨rfl, hname⟩
  · exact absurd h (by simp)

theorem Target.generate_eq_ok_iff {t : Target} {name : String} {lines : List String}
    {u : SourceUnit} : t.generate name lines = .ok u ↔
      ∃ f, Family.read name lines = .ok f ∧ t.check f = .ok () ∧ t.unit f = u := by
  rw [generate, readFamily]
  cases hread : Family.read name lines with
  | error e => simp [Except.map]
  | ok f =>
    cases hcheck : t.check f with
    | error e => simp [Except.map, hcheck]
    | ok _ => simp [Except.map, hcheck]

/-- All that a unit is: the layout of a family whose names were checked. -/
theorem Target.generate_cases {t : Target} {family : String} {lines : List String} {u : SourceUnit}
    (h : t.generate family lines = .ok u) :
    ∃ f : Family, f.name = family ∧ isIdentifier family.toList = true ∧ t.check f = .ok () ∧
      u = t.unit f := by
  obtain ⟨f, hread, hcheck, hunit⟩ := generate_eq_ok_iff.mp h
  obtain ⟨hname, hid⟩ := Family.name_of_read hread
  exact ⟨f, hname, hid, hcheck, hunit.symm⟩

/-! ## File names -/

/-- A stem without slashes makes a plain name with an extension. -/
theorem Path.isPlain_append {stem extension : String} (hstem : '/' ∉ stem.toList)
    (hext : '/' ∉ extension.toList) (hlen : 2 < extension.toList.length) :
    Path.IsPlain (stem ++ extension) := by
  have hlong : 2 < (stem ++ extension).toList.length := by
    rw [String.toList_append, List.length_append]
    omega
  constructor
  · simp [hstem, hext]
  all_goals
    intro heq
    rw [heq] at hlong
    exact absurd hlong (by decide)

/-- How a language spells the name of a family in its file name. -/
def Language.fileStem : Language → String → String
  | .csharp, family => family
  | .rust, family => snakeCase family

/-- What stands behind the stem in the file names of a language. -/
def Language.fileExtension : Language → String
  | .csharp => ".cs"
  | .rust => ".rs"

theorem Language.slash_notMem_fileExtension (l : Language) : '/' ∉ l.fileExtension.toList := by
  cases l <;> decide

theorem Language.length_fileExtension (l : Language) : 2 < l.fileExtension.toList.length := by
  cases l <;> decide

theorem Language.notMem_fileStem (l : Language) {c : Char} (hc : isIdentifierPart c = false)
    {family : String} (h : isIdentifier family.toList = true) : c ∉ (l.fileStem family).toList := by
  have hparts : ∀ c ∈ family.toList, isIdentifierPart c = true := isIdentifierPart_of_mem h
  cases l with
  | csharp => exact notMem_of_isIdentifierPart hc hparts
  | rust =>
    rw [fileStem, snakeCase, String.toList_ofList]
    exact notMem_of_isIdentifierPart hc (isIdentifierPart_of_mem_snakeAfter hparts)

theorem Target.fileName_of_generate {t : Target} {family : String} {lines : List String}
    {u : SourceUnit} (h : t.generate family lines = .ok u) :
    u.fileName = t.language.fileStem family ++ t.language.fileExtension := by
  obtain ⟨f, rfl, -, -, rfl⟩ := Target.generate_cases h
  cases t <;> rfl

/-- The file name of a unit is a plain name. -/
theorem Target.isPlain_fileName {t : Target} {family : String} {lines : List String}
    {u : SourceUnit} (h : t.generate family lines = .ok u) : Path.IsPlain u.fileName := by
  obtain ⟨-, -, hid, -, -⟩ := Target.generate_cases h
  rw [Target.fileName_of_generate h]
  exact Path.isPlain_append (t.language.notMem_fileStem (by decide) hid)
    t.language.slash_notMem_fileExtension t.language.length_fileExtension

/-- A file name holds no NUL. -/
theorem Target.nul_notMem_fileName {t : Target} {family : String} {lines : List String}
    {u : SourceUnit} (h : t.generate family lines = .ok u) :
    Char.ofNat 0 ∉ u.fileName.toList := by
  obtain ⟨-, -, hid, -, -⟩ := Target.generate_cases h
  have hextension : Char.ofNat 0 ∉ t.language.fileExtension.toList := by
    cases t.language <;> decide
  rw [Target.fileName_of_generate h, String.toList_append, List.mem_append, not_or]
  exact ⟨t.language.notMem_fileStem (by decide) hid, hextension⟩

/-- An extension can be taken off again. -/
theorem append_injective (extension : String) :
    Function.Injective fun stem : String => stem ++ extension := by
  intro stem stem' heq
  have hlist := congrArg String.toList heq
  simp only [String.toList_append] at hlist
  exact String.toList_inj.mp (List.append_cancel_right hlist)

/-- Two units have the same file name exactly if the stems of their families agree. -/
theorem Target.fileName_eq_iff {t : Target} {family family' : String} {lines lines' : List String}
    {u u' : SourceUnit} (h : t.generate family lines = .ok u)
    (h' : t.generate family' lines' = .ok u') :
    u.fileName = u'.fileName ↔ t.language.fileStem family = t.language.fileStem family' := by
  rw [Target.fileName_of_generate h, Target.fileName_of_generate h']
  exact (append_injective t.language.fileExtension).eq_iff

/-! ## Source texts -/

/-- The source text of a Rust unit starts with a comment that names the family. -/
theorem Target.exists_source_rust (o : Rust.Options) (f : Family) :
    ∃ rest, ((Target.rust o).unit f).source.toList =
      "// Generated by astgen from the `".toList ++ (f.name.toList ++ '`' :: rest) := by
  obtain ⟨steps, hsteps⟩ : ∃ steps, (Target.rust o).steps f =
      .line ("// Generated by astgen from the `" ++ f.name ++ "` grammar. Do not edit by hand.")
        :: steps := by
    simp only [steps, prelude, Rust.prelude, List.append_assoc, List.cons_append]
    exact ⟨_, rfl⟩
  refine ⟨" grammar. Do not edit by hand.".toList ++ '\n' ::
    layout (Target.rust o).indentUnit 0 steps, ?_⟩
  rw [toList_source, hsteps, layout]
  simp [Step.row, Step.ownLevel, Step.levelAfter, indentation]

/-- Units of different families have different source texts, even if their file names agree. -/
theorem Target.source_ne {t : Target} {family family' : String} {lines lines' : List String}
    {u u' : SourceUnit} (h : t.generate family lines = .ok u)
    (h' : t.generate family' lines' = .ok u') (hne : family ≠ family')
    (hfile : u.fileName = u'.fileName) : u.source ≠ u'.source := by
  rw [Target.fileName_eq_iff h h'] at hfile
  cases t with
  | csharp o => exact absurd hfile hne
  | rust o =>
    obtain ⟨f, rfl, hid, -, rfl⟩ := Target.generate_cases h
    obtain ⟨f', rfl, hid', -, rfl⟩ := Target.generate_cases h'
    intro heq
    obtain ⟨rest, hrest⟩ := Target.exists_source_rust o f
    obtain ⟨rest', hrest'⟩ := Target.exists_source_rust o f'
    rw [heq, hrest', List.append_right_inj] at hrest
    -- the identifier ends where the backtick stands
    have hname := (identifier_append_inj (isIdentifierPart_of_mem hid')
      (isIdentifierPart_of_mem hid) (by decide) (by decide) hrest).1
    exact hne (String.toList_inj.mp hname.symm)

end VisitorGen
