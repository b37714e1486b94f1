import VisitorGen.Proofs.Declaration.Families
import VisitorGen.Proofs.Target.FileName
import VisitorGen.Proofs.Target.Words

set_option autoImplicit false

/-! # The rows of a unit

Names are escaped, joined and changed in case, but whatever a target makes of an identifier has only
characters of identifiers and the two escape characters. The rest of a unit's text is fixed, up to
the types of the fields and the options of the target, which are copied as they are, but never to
the start of a row. If there is no newline in these, every step is a single line that starts with a
visible character (`Target.areRows_steps`). -/

namespace VisitorGen

open Text

/-- A unit is laid out from the family that its lines declare. -/
theorem Target.eq_unit_of_generate {t : Target} {name : String} {lines : List String}
    {u : SourceUnit} {f : Family} (hgen : t.generate name lines = .ok u)
    (hread : Family.read name lines = .ok f) : u = t.unit f ∧ f.WellFormed := by
  obtain ⟨f', hread', -, hunit⟩ := generate_eq_ok_iff.mp hgen
  obtain rfl : f = f' := Except.ok.inj (hread.symm.trans hread')
  exact ⟨hunit.symm, (Family.wellFormed_of_read hread).2⟩

/-! ## Characters outside of names -/

/-- The character stands in no type of the family. -/
def Family.TypesAvoid (c : Char) (f : Family) : Prop :=
  ∀ v ∈ f.variants, ∀ g ∈ v.fields, c ∉ g.type.toList

/-- The character stands in no option of the target. -/
def Target.OptionsAvoid (c : Char) : Target → Prop
  | .csharp o => c ∉ o.space.toList
  | .rust o => ∀ d ∈ o.derives, c ∉ d.toList

/-- The character can stand in no name, not even in an escaped one. -/
structure OutsideNames (c : Char) : Prop where
  part : isIdentifierPart c = false := by decide
  ne_at : c ≠ '@' := by decide
  ne_hash : c ≠ '#' := by decide

theorem outsideNames_newline : OutsideNames '\n' := {}

theorem OutsideNames.notMem {c : Char} (hc : OutsideNames c) {name : String}
    (h : isIdentifier name.toList = true) : c ∉ name.toList :=
  notMem_of_isIdentifierPart hc.part (isIdentifierPart_of_mem h)

/-! ## Names -/

theorem isIdentifierPart_of_mem_lowerCase {name : String}
    (h : ∀ c ∈ name.toList, isIdentifierPart c = true) :
    ∀ c ∈ (lowerCase name).toList, isIdentifierPart c = true := by
  rw [lowerCase, String.toList_ofList, lowerText, lowerAfter_of_isIdentifierPart h]
  exact List.forall_mem_map.mpr fun c hc => isIdentifierPart_toLower (h c hc)

theorem isIdentifierPart_of_mem_snakeCase {name : String}
    (h : ∀ c ∈ name.toList, isIdentifierPart c = true) :
    ∀ c ∈ (snakeCase name).toList, isIdentifierPart c = true := by
  rw [snakeCase, String.toList_ofList]
  exact isIdentifierPart_of_mem_snakeAfter h

theorem isIdentifierPart_of_mem_dispatchName {family variant : String}
    (hfamily : isIdentifier family.toList = true) (hvariant : isIdentifier variant.toList = true) :
    ∀ c ∈ (dispatchName family variant).toList, isIdentifierPart c = true := by
  have hverb : ∀ c ∈ "Visit".toList, isIdentifierPart c = true :=
    isIdentifierPart_of_mem (by decide)
  unfold dispatchName
  simp only [String.toList_append, List.forall_mem_append]
  exact ⟨⟨hverb, isIdentifierPart_of_mem hvariant⟩, isIdentifierPart_of_mem hfamily⟩

section

variable {c : Char} (hc : OutsideNames c)

include hc

theorem OutsideNames.isNameChar_eq_false : isNameChar c = false := by
  simp [isNameChar, hc.part, hc.ne_at, hc.ne_hash]

theorem CSharp.notMem_escape {name : String} (h : ∀ d ∈ name.toList, isIdentifierPart d = true) :
    c ∉ (escape name).toList :=
  notMem_word (isWord_escape h) hc.isNameChar_eq_false

theorem Rust.notMem_escape {name : String} (h : ∀ d ∈ name.toList, isIdentifierPart d = true) :
    c ∉ (escape name).toList :=
  notMem_word (isWord_escape h) hc.isNameChar_eq_false

theorem CSharp.notMem_parameter (hspace : c ≠ ' ') {g : Field} (hg : g.WellFormed)
    (htype : c ∉ g.type.toList) : c ∉ (parameter g).toList := by
  have hname := notMem_escape hc (isIdentifierPart_of_mem hg.name)
  unfold parameter
  simp [htype, hspace, hname]

theorem Rust.notMem_declaration (hspace : c ≠ ' ') (hcolon : c ≠ ':') {g : Field}
    (hg : g.WellFormed) (htype : c ∉ g.type.toList) : c ∉ (declaration g).toList := by
  have hname := notMem_escape hc (isIdentifierPart_of_mem hg.name)
  unfold declaration
  simp [htype, hspace, hcolon, hname]

variable {f : Family} (hf : f.WellFormed)

include hf

theorem CSharp.notMem_parameterName : c ∉ (parameterName f).toList :=
  notMem_escape hc (isIdentifierPart_of_mem_lowerCase (isIdentifierPart_of_mem hf.name))

theorem Rust.notMem_parameterName : c ∉ (parameterName f).toList :=
  notMem_escape hc (isIdentifierPart_of_mem_snakeCase (isIdentifierPart_of_mem hf.name))

theorem OutsideNames.notMem_dispatchName {v : Variant} (hv : v.WellFormed) :
    c ∉ (dispatchName f.name v.name).toList :=
  notMem_of_isIdentifierPart hc.part (isIdentifierPart_of_mem_dispatchName hf.name hv.name)

theorem Rust.notMem_methodName {v : Variant} (hv : v.WellFormed) : c ∉ (methodName f v).toList :=
  notMem_of_isIdentifierPart hc.part
    (isIdentifierPart_of_mem_snakeCase (isIdentifierPart_of_mem_dispatchName hf.name hv.name))

end

/-! ## Rows -/

theorem startsSolid_of_isIdentifier {cs : List Char} (h : isIdentifier cs = true)
    (rest : List Char) : startsSolid (cs ++ rest) = true := by
  cases cs with
  | nil => exact absurd rfl (ne_nil_of_isIdentifier h)
  | cons c cs => simp [startsSolid, isBlank_of_mem_identifier h c List.mem_cons_self]

/-! ## The rows of C# -/

theorem CSharp.areRows_base : AreRows base := by
  simp +decide [base, acceptName, visitorName, IsRow]

theorem CSharp.areRows_epilogue : AreRows epilogue := by
  simp +decide [epilogue, IsRow]

section

variable {f : Family} (hf : f.WellFormed)

include hf

theorem CSharp.areRows_prelude {o : Options} (hspace : '\n' ∉ o.space.toList) :
    AreRows (prelude o f) := by
  have hname := outsideNames_newline.notMem hf.name
  simp +decide [prelude, usings, IsRow, hspace, hname]

theorem CSharp.isRow_methodDeclaration {v : Variant} (hv : v.WellFormed) :
    IsRow (methodDeclaration f v) := by
  have hvariant := outsideNames_newline.notMem hv.name
  have hdispatch := outsideNames_newline.notMem_dispatchName hf hv
  have hparameter := notMem_parameterName outsideNames_newline hf
  unfold methodDeclaration
  simp +decide [IsRow, hdispatch, hvariant, hparameter]

theorem CSharp.areRows_visitor : AreRows (visitor f) := by
  have hmethods : ∀ v ∈ f.variants, IsRow (methodDeclaration f v) := fun v hv =>
    isRow_methodDeclaration hf (hf.variants v hv)
  simpa +decide [visitor, visitorName, IsRow] using hmethods

theorem CSharp.areRows_variant {v : Variant} (hv : v.WellFormed)
    (htypes : ∀ g ∈ v.fields, '\n' ∉ g.type.toList) : AreRows (variant f v) := by
  have hname := outsideNames_newline.notMem hf.name
  have hvariant := outsideNames_newline.notMem hv.name
  have hdispatch := outsideNames_newline.notMem_dispatchName hf hv
  have hnames : ∀ g ∈ v.fields, '\n' ∉ (escape g.name).toList := fun g hg =>
    notMem_escape outsideNames_newline (isIdentifierPart_of_mem (hv.fields g hg).name)
  have hfields : ∀ g ∈ v.fields, '\n' ∉ (parameter g).toList := fun g hg =>
    notMem_parameter outsideNames_newline (by decide) (hv.fields g hg) (htypes g hg)
  have hlist : '\n' ∉ (String.intercalate ", " (v.fields.map parameter)).toList :=
    notMem_intercalate (by simp) (List.forall_mem_map.mpr hfields)
  simp +decide [variant, acceptName, visitorName, IsRow, hname, hvariant, hdispatch,
    hlist, -String.toList_intercalate]
  exact ⟨hfields, hnames⟩

/-! ## The rows of Rust -/

theorem Rust.areRows_prelude : AreRows (prelude f) := by
  have hname := outsideNames_newline.notMem hf.name
  simp +decide [prelude, IsRow, hname]

theorem Rust.isRow_methodDeclaration {v : Variant} (hv : v.WellFormed) :
    IsRow (methodDeclaration f v) := by
  have hvariant := outsideNames_newline.notMem hv.name
  have hmethod := notMem_methodName outsideNames_newline hf hv
  have hparameter := notMem_parameterName outsideNames_newline hf
  unfold methodDeclaration
  simp +decide [IsRow, hmethod, hvariant, hparameter]

theorem Rust.areRows_visitor : AreRows (visitor f) := by
  have hname := outsideNames_newline.notMem hf.name
  have hmethods : ∀ v ∈ f.variants, IsRow (methodDeclaration f v) := fun v hv =>
    isRow_methodDeclaration hf (hf.variants v hv)
  simpa +decide [visitor, visitorName, IsRow, hname] using hmethods

omit hf in
theorem Rust.areRows_deriveLine {o : Options} (hderives : ∀ d ∈ o.derives, '\n' ∉ d.toList) :
    AreRows (deriveLine o) := by
  have hlist : '\n' ∉ (String.intercalate ", " o.derives).toList :=
    notMem_intercalate (by simp) hderives
  rw [deriveLine]
  split
  · exact areRows_nil
  · simp +decide [IsRow, hlist, -String.toList_intercalate]

theorem Rust.isRow_acceptHead : IsRow (acceptHead f) := by
  have hname := outsideNames_newline.notMem hf.name
  unfold acceptHead visitorName
  simp +decide [IsRow, hname]

theorem Rust.areRows_forwarding : AreRows (forwarding f) := by
  have hname := outsideNames_newline.notMem hf.name
  have hvariants : ∀ v ∈ f.variants, '\n' ∉ v.name.toList := fun v hv =>
    outsideNames_newline.notMem (hf.variants v hv).name
  rw [forwarding]
  split
  · simp +decide [IsRow]
  · simpa +decide [IsRow, startsSolid_of_isIdentifier hf.name, hname] using hvariants

theorem Rust.areRows_base {o : Options} (hderives : ∀ d ∈ o.derives, '\n' ∉ d.toList) :
    AreRows (base o f) := by
  have hname := outsideNames_newline.notMem hf.name
  have hderive := areRows_deriveLine hderives
  have hforward := areRows_forwarding hf
  have hhead := isRow_acceptHead hf
  have hvariants : ∀ v ∈ f.variants, IsRow (v.name ++ "(" ++ v.name ++ "),") := by
    intro v hv
    have hvariant := outsideNames_newline.notMem (hf.variants v hv).name
    simp [IsRow, startsSolid_of_isIdentifier (hf.variants v hv).name, hvariant]
  have hopen : IsRow ("pub enum " ++ f.name ++ " \x7b") ∧ IsRow ("impl " ++ f.name ++ " \x7b") := by
    simp +decide [IsRow, hname]
  have hclose : IsRow "\x7d" ∧ IsRow "" := by simp +decide [IsRow]
  simpa [base, hderive, hopen, hclose, hhead, hforward] using hvariants

omit hf in
theorem Rust.isRow_construction {v : Variant} (hv : v.WellFormed) : IsRow (construction v) := by
  have hnames : ∀ g ∈ v.fields, '\n' ∉ (escape g.name).toList := fun g hg =>
    notMem_escape outsideNames_newline (isIdentifierPart_of_mem (hv.fields g hg).name)
  have hlist : '\n' ∉ (String.intercalate ", " (v.fields.map fun g => escape g.name)).toList :=
    notMem_intercalate (by simp) (List.forall_mem_map.mpr hnames)
  unfold construction
  split
  · simp +decide [IsRow]
  · simp +decide [IsRow, hlist, -String.toList_intercalate]

theorem Rust.areRows_variant {o : Options} (hderives : ∀ d ∈ o.derives, '\n' ∉ d.toList)
    {v : Variant} (hv : v.WellFormed) (htypes : ∀ g ∈ v.fields, '\n' ∉ g.type.toList) :
    AreRows (variant o f v) := by
  have hname := outsideNames_newline.notMem hf.name
  have hvariant := outsideNames_newline.notMem hv.name
  have hmethod := notMem_methodName outsideNames_newline hf hv
  have hhead := isRow_acceptHead hf
  have hderive := areRows_deriveLine hderives
  have hconstruction := isRow_construction hv
  have hfields : ∀ g ∈ v.fields, '\n' ∉ (declaration g).toList := fun g hg =>
    notMem_declaration outsideNames_newline (by decide) (by decide) (hv.fields g hg) (htypes g hg)
  have hlist : '\n' ∉ (String.intercalate ", " (v.fields.map declaration)).toList :=
    notMem_intercalate (by simp) (List.forall_mem_map.mpr hfields)
  have hlast := startsSolid_of_isIdentifier hf.name
  simpa +decide [variant, IsRow, hname, hvariant, hmethod, hhead.1, hhead.2, hderive, hlist,
    hconstruction.1, hconstruction.2, hlast, -String.toList_intercalate] using hfields

/-! ## The rows of a unit -/

/-- Every step is a row if the types and the options are single lines. -/
theorem Target.areRows_steps {t : Target} (htypes : f.TypesAvoid '\n')
    (hoptions : t.OptionsAvoid '\n') : AreRows (t.steps f) := by
  simp only [steps, areRows_append, areRows_flatMap]
  cases t with
  | csharp o =>
    refine ⟨⟨⟨⟨?_, ?_⟩, ?_⟩, fun v hv => ?_⟩, ?_⟩
    · exact CSharp.areRows_prelude hf hoptions
    · exact CSharp.areRows_visitor hf
    · exact CSharp.areRows_base
    · exact CSharp.areRows_variant hf (hf.variants v hv) (htypes v hv)
    · exact CSharp.areRows_epilogue
  | rust o =>
    refine ⟨⟨⟨⟨?_, ?_⟩, ?_⟩, fun v hv => ?_⟩, ?_⟩
    · exact Rust.areRows_prelude hf
    · exact Rust.areRows_visitor hf
    · exact Rust.areRows_base hf hoptions
    · exact Rust.areRows_variant hf hoptions (hf.variants v hv) (htypes v hv)
    · exact areRows_nil

end

end VisitorGen
