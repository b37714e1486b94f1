import VisitorGen.Proofs.Target.Check
import VisitorGen.Proofs.Target.DeclaredNames
import VisitorGen.Proofs.Target.MethodNames

set_option autoImplicit false

/-! # Legal names in Rust

A name is legal if it is an identifier that the language does not reserve. A field or a parameter may
also be a reserved word in raw form, if the word has one. The lone underscore is no name, although it
is made of the characters of names. The target checks the reserved words, and escapes them where this
is possible; what it adds to a name and what it does to its case makes no reserved word out of a type
or a function. So of all the names that a unit declares, only the lone underscore can be illegal
(`Rust.declared_names_legal`), and it is declared exactly if the family has it somewhere. -/

namespace VisitorGen.Rust

open Text

/-! ## Legal names -/

/-- The words that the language reserves, those in use before those for later use. -/
def reservedWords : List String :=
  ["as", "async", "await", "break", "const", "continue", "crate", "dyn", "else", "enum", "extern",
   "false", "fn", "for", "if", "impl", "in", "let", "loop", "match", "mod", "move", "mut", "pub",
   "ref", "return", "self", "Self", "static", "struct", "super", "trait", "true", "type", "unsafe",
   "use", "where", "while", "abstract", "become", "box", "do", "final", "gen", "macro", "override",
   "priv", "try", "typeof", "unsized", "virtual", "yield"]

/-- An identifier that is not reserved, and not the lone underscore. -/
structure IsPlainName (name : String) : Prop where
  identifier : isIdentifier name.toList = true
  ne_underscore : name ≠ "_"
  notReserved : name ∉ reservedWords

/-- A reserved word in raw form. The words of paths have none. -/
def IsRawName (name : String) : Prop :=
  ∃ word ∈ reservedWords, word ∉ ["self", "Self", "super", "crate"] ∧ name = "r#" ++ word

/-- Types, variants and functions have plain names, fields and parameters also raw ones. -/
def DeclaredName.Legal (d : DeclaredName) : Prop :=
  IsPlainName d.name ∨ ((d.kind = .field ∨ d.kind = .parameter) ∧ IsRawName d.name)

theorem IsRawName.ne_underscore {name : String} (h : IsRawName name) : name ≠ "_" := by
  obtain ⟨word, -, -, rfl⟩ := h
  simp [← String.toList_inj]

theorem DeclaredName.Legal.ne_underscore {d : DeclaredName} (h : d.Legal) : d.name ≠ "_" := by
  rcases h with h | ⟨-, h⟩
  · exact h.ne_underscore
  · exact h.ne_underscore

/-! ## The tables of reserved words -/

theorem reservedWords_perm : (rawKeywords ++ pathKeywords).Perm reservedWords := by
  decide +kernel

theorem isKeyword_iff {name : String} : isKeyword name = true ↔ name ∈ reservedWords := by
  rw [← reservedWords_perm.mem_iff, List.mem_append]
  simp [isKeyword, isPathKeyword]

theorem isPathKeyword_iff {name : String} :
    isPathKeyword name = true ↔ name ∈ ["self", "Self", "super", "crate"] := by
  simp [isPathKeyword, pathKeywords]

/-- The words with a raw form are those that are not of paths. -/
theorem mem_rawKeywords_iff {word : String} : word ∈ rawKeywords ↔
    word ∈ reservedWords ∧ word ∉ ["self", "Self", "super", "crate"] := by
  have hapart : ∀ word ∈ rawKeywords, word ∉ pathKeywords := by decide +kernel
  rw [← reservedWords_perm.mem_iff, List.mem_append]
  constructor
  · intro h
    exact ⟨.inl h, hapart word h⟩
  · rintro ⟨h | h, hpath⟩
    · exact h
    · exact absurd h hpath

/-! ## Names that the target makes -/

/-- An escaped name is legal for a field, unless it is a word of paths or the lone underscore. -/
theorem escape_legal {name : String} (hname : isIdentifier name.toList = true)
    (hpath : isPathKeyword name = false) (hne : name ≠ "_") :
    IsPlainName (escape name) ∨ IsRawName (escape name) := by
  rw [escape]
  split
  · next hraw =>
    obtain ⟨hreserved, hpath⟩ := mem_rawKeywords_iff.mp (by simpa using hraw)
    exact .inr ⟨name, hreserved, hpath, rfl⟩
  · next hraw =>
    refine .inl ⟨hname, hne, fun hreserved => hraw ?_⟩
    have hnot : name ∉ ["self", "Self", "super", "crate"] := by
      rw [← isPathKeyword_iff, hpath]
      simp
    simpa using mem_rawKeywords_iff.mpr ⟨hreserved, hnot⟩

theorem escape_eq_underscore_iff {name : String} : escape name = "_" ↔ name = "_" := by
  rw [escape]
  split
  · next hraw =>
    constructor
    · intro h
      simp [← String.toList_inj] at h
    · rintro rfl
      exact absurd hraw (by decide)
  · exact Iff.rfl

/-- No reserved word ends as the name of a visitor. -/
theorem isPlainName_visitorName {f : Family} (hf : f.WellFormed) : IsPlainName (visitorName f) := by
  have hends : ∀ word ∈ "_" :: reservedWords, ¬ "Visitor".toList <:+ word.toList := by decide +kernel
  have hend : "Visitor".toList <:+ (visitorName f).toList := by
    rw [visitorName, String.toList_append]
    exact List.suffix_append _ _
  refine ⟨?_, fun heq => hends _ List.mem_cons_self (heq ▸ hend),
    fun hmem => hends _ (List.mem_cons_of_mem _ hmem) hend⟩
  rw [visitorName, String.toList_append]
  exact isIdentifier_append hf.name (isIdentifierPart_of_mem (by decide))

/-- No reserved word starts as the name of a visitor's method. -/
theorem isPlainName_methodName {f : Family} (hf : f.WellFormed) {v : Variant} (hv : v.WellFormed) :
    IsPlainName (methodName f v) := by
  have hstarts : ∀ word ∈ "_" :: reservedWords, ¬ "visit".toList <+: word.toList := by decide +kernel
  obtain ⟨tail, htail⟩ := exists_toList_methodName hf.name_ne_empty
  have hstart : "visit".toList <+: (methodName f v).toList := ⟨_, (htail v).symm⟩
  refine ⟨?_, fun heq => hstarts _ List.mem_cons_self (heq ▸ hstart),
    fun hmem => hstarts _ (List.mem_cons_of_mem _ hmem) hstart⟩
  have hparts : ∀ c ∈ (methodName f v).toList, isIdentifierPart c = true :=
    isIdentifierPart_of_mem_snakeCase (isIdentifierPart_of_mem_dispatchName hf.name hv.name)
  rw [htail] at hparts ⊢
  exact isIdentifier_append (by decide) fun c hc => hparts c (List.mem_append_right _ hc)

theorem parameterName_eq_underscore_iff {f : Family} (hf : f.WellFormed) :
    parameterName f = "_" ↔ f.name = "_" := by
  rw [parameterName, escape_eq_underscore_iff, snakeCase, ← String.toList_inj, String.toList_ofList,
    ← String.toList_inj]
  exact snakeAfter_eq_underscore_iff hf.name

/-- The names that are the same in every unit. -/
theorem isPlainName_of_template {name : String}
    (h : name ∈ ["accept", "visitor", "new", "from", "node"]) : IsPlainName name := by
  have hall : ∀ name ∈ ["accept", "visitor", "new", "from", "node"],
      isIdentifier name.toList = true ∧ name ≠ "_" ∧ name ∉ reservedWords := by decide
  obtain ⟨hname, hne, hreserved⟩ := hall name h
  exact ⟨hname, hne, hreserved⟩

/-! ## What the target checks -/

theorem not_keyword_of_checkVariant {visitor : String} {v : Variant}
    (h : checkVariant visitor v = .ok ()) :
    isKeyword v.name = false ∧ ∀ g ∈ v.fields, isPathKeyword g.name = false := by
  rw [checkVariant] at h
  split at h
  · exact absurd h (by simp)
  · next hname =>
    split at h
    · exact absurd h (by simp)
    · split at h
      · exact absurd h (by simp)
      · next hfields => exact ⟨by simpa using hname, by simpa using hfields⟩

theorem not_keyword_of_checkName {o : Options} {name : String}
    (h : (Target.rust o).checkName name = .ok ()) :
    isKeyword name = false ∧ isPathKeyword (snakeCase name) = false := by
  rw [Target.checkName, Target.check, check] at h
  split at h
  · exact absurd h (by simp)
  · next hname =>
    split at h
    · exact absurd h (by simp)
    · next hparameter => exact ⟨by simpa using hname, by simpa using hparameter⟩

/-- An identifier that passes the check of type names is plain, unless it is the lone underscore. -/
theorem isPlainName_of_not_keyword {name : String} (hname : isIdentifier name.toList = true)
    (hkeyword : isKeyword name = false) (hne : name ≠ "_") : IsPlainName name :=
  ⟨hname, hne, fun hmem => by simp [isKeyword_iff.mpr hmem] at hkeyword⟩

/-! ## The names of a unit -/

section

variable {o : Options} {f : Family} (hf : f.WellFormed) (hcheck : (Target.rust o).check f = .ok ())

include hf hcheck

theorem legal_visitorNames {d : DeclaredName} (hd : d ∈ visitorNames f) (hne : d.name ≠ "_") :
    d.Legal := by
  obtain ⟨hname, -⟩ := Target.check_eq_ok_iff.mp hcheck
  simp only [visitorNames, List.mem_cons, List.mem_flatMap, List.not_mem_nil, or_false] at hd
  rcases hd with rfl | ⟨v, hv, rfl | rfl⟩
  · exact .inl (isPlainName_visitorName hf)
  · exact .inl (isPlainName_methodName hf (hf.variants v hv))
  · have hsnake : isIdentifier (snakeCase f.name).toList = true := by
      rw [snakeCase, String.toList_ofList]
      exact isIdentifier_snakeAfter hf.name
    have hlegal := escape_legal hsnake (not_keyword_of_checkName hname).2
      (fun heq => hne (escape_eq_underscore_iff.mpr heq))
    exact hlegal.imp_right fun hraw => ⟨.inr rfl, hraw⟩

theorem legal_enumNames {d : DeclaredName} (hd : d ∈ enumNames f) (hne : d.name ≠ "_") :
    d.Legal := by
  obtain ⟨hname, hvariants⟩ := Target.check_eq_ok_iff.mp hcheck
  simp only [enumNames, List.mem_cons, List.mem_append, List.mem_map, List.not_mem_nil,
    or_false] at hd
  rcases hd with (rfl | ⟨v, hv, rfl⟩) | rfl | rfl
  · exact .inl (isPlainName_of_not_keyword hf.name (not_keyword_of_checkName hname).1 hne)
  · exact .inl (isPlainName_of_not_keyword (hf.variants v hv).name
      (not_keyword_of_checkVariant (hvariants v hv)).1 hne)
  · exact .inl (isPlainName_of_template (by decide))
  · exact .inl (isPlainName_of_template (by decide))

theorem legal_structNames {v : Variant} (hv : v ∈ f.variants) {d : DeclaredName}
    (hd : d ∈ structNames v) (hne : d.name ≠ "_") : d.Legal := by
  obtain ⟨-, hvariants⟩ := Target.check_eq_ok_iff.mp hcheck
  obtain ⟨hkeyword, hpath⟩ := not_keyword_of_checkVariant (hvariants v hv)
  have hfield : ∀ g ∈ v.fields, escape g.name ≠ "_" →
      IsPlainName (escape g.name) ∨ IsRawName (escape g.name) := fun g hg hne =>
    escape_legal ((hf.variants v hv).fields g hg).name (hpath g hg)
      fun heq => hne (escape_eq_underscore_iff.mpr heq)
  simp only [structNames, List.mem_cons, List.mem_append, List.mem_map, List.not_mem_nil,
    or_false] at hd
  rcases hd with ((rfl | ⟨g, hg, rfl⟩) | rfl | ⟨g, hg, rfl⟩) | rfl | rfl | rfl | rfl
  · exact .inl (isPlainName_of_not_keyword (hf.variants v hv).name hkeyword hne)
  · exact (hfield g hg hne).imp_right fun hraw => ⟨.inl rfl, hraw⟩
  · exact .inl (isPlainName_of_template (by decide))
  · exact (hfield g hg hne).imp_right fun hraw => ⟨.inr rfl, hraw⟩
  all_goals exact .inl (isPlainName_of_template (by decide))

end

/-- The lone underscore is declared exactly if it stands in the family. -/
theorem ne_underscore_iff {f : Family} (hf : f.WellFormed) :
    (∀ d ∈ visitorNames f ++ enumNames f ++ f.variants.flatMap structNames, d.name ≠ "_") ↔
      f.name ≠ "_" ∧ ∀ v ∈ f.variants, v.name ≠ "_" ∧ "_" ∉ v.fieldNames := by
  have hvisitor : visitorName f ≠ "_" := (isPlainName_visitorName hf).ne_underscore
  have hmethods : ∀ v ∈ f.variants, methodName f v ≠ "_" := fun v hv =>
    (isPlainName_methodName hf (hf.variants v hv)).ne_underscore
  have hfields : ∀ v : Variant, "_" ∉ v.fieldNames ↔ ∀ g ∈ v.fields, g.name ≠ "_" := by
    intro v
    simp [Variant.fieldNames, eq_comm]
  simp only [visitorNames, enumNames, structNames, List.forall_mem_append, List.forall_mem_cons,
    List.forall_mem_map, List.forall_mem_flatMap, ne_eq, escape_eq_underscore_iff,
    parameterName_eq_underscore_iff hf, hfields]
  constructor
  · rintro ⟨⟨-, ⟨hname, -⟩, -⟩, hstructs⟩
    exact ⟨hname, fun v hv => (hstructs v hv).1.1⟩
  · rintro ⟨hname, hvariants⟩
    refine ⟨⟨⟨hvisitor, fun v hv => ⟨hmethods v hv, hname, by simp⟩⟩, ?_, by simp⟩, fun v hv => ?_⟩
    · exact ⟨hname, fun v hv => (hvariants v hv).1⟩
    · exact ⟨⟨hvariants v hv, by simp, (hvariants v hv).2⟩, by simp⟩

/-- **The names of a Rust unit.** All names that the unit of an accepted family declares are legal,
    but for the lone underscore. So they are all legal exactly if this is no name of the family, of
    its variants or of their fields. The visitor and the functions have plain names in any case. -/
theorem declared_names_legal {o : Options} {name : String} {lines : List String} {u : SourceUnit}
    (h : (Target.rust o).generate name lines = .ok u) :
    ∃ f, Family.read name lines = .ok f ∧ u = (Target.rust o).unit f ∧
      declaredNames ((Target.rust o).steps f) =
        visitorNames f ++ enumNames f ++ f.variants.flatMap structNames ∧
      (∀ d ∈ declaredNames ((Target.rust o).steps f), d.Legal ↔ d.name ≠ "_") ∧
      ((∀ d ∈ declaredNames ((Target.rust o).steps f), d.Legal) ↔
        f.name ≠ "_" ∧ ∀ v ∈ f.variants, v.name ≠ "_" ∧ "_" ∉ v.fieldNames) ∧
      IsPlainName (visitorName f) ∧ ∀ v ∈ f.variants, IsPlainName (methodName f v) := by
  obtain ⟨f, hread, hcheck, rfl⟩ := Target.generate_eq_ok_iff.mp h
  obtain ⟨-, hf⟩ := Family.wellFormed_of_read hread
  have hnames := declaredNames_steps hf o
  have hlegal : ∀ d ∈ declaredNames ((Target.rust o).steps f), d.Legal ↔ d.name ≠ "_" := by
    intro d hd
    refine ⟨DeclaredName.Legal.ne_underscore, fun hne => ?_⟩
    rw [hnames, List.mem_append, List.mem_append, List.mem_flatMap] at hd
    rcases hd with (hd | hd) | ⟨v, hv, hd⟩
    · exact legal_visitorNames hf hcheck hd hne
    · exact legal_enumNames hf hcheck hd hne
    · exact legal_structNames hf hcheck hv hd hne
  refine ⟨f, hread, rfl, hnames, hlegal, ?_, isPlainName_visitorName hf, fun v hv =>
    isPlainName_methodName hf (hf.variants v hv)⟩
  rw [forall₂_congr hlegal, hnames]
  exact ne_underscore_iff hf

/-- A family named after a keyword in another case, with a keyword among its fields. -/
theorem declared_names_legal_fn :
    ∃ u, (Target.rust ⟨defaultDerives⟩).generate "Fn" ["Self_ : fn(A, B) -> C type, T visitor"] =
        .ok u ∧
      let f : Family := ⟨"Fn", [⟨"Self_", [⟨"fn(A, B) -> C", "type"⟩, ⟨"T", "visitor"⟩]⟩]⟩
      let names := declaredNames ((Target.rust ⟨defaultDerives⟩).steps f)
      (∀ d ∈ names, d.Legal) ∧ ⟨.parameter, "r#fn"⟩ ∈ names ∧ ⟨.field, "r#type"⟩ ∈ names ∧
        ⟨.type, "Self_"⟩ ∈ names := by
  have hread : Family.read "Fn" ["Self_ : fn(A, B) -> C type, T visitor"] =
      .ok ⟨"Fn", [⟨"Self_", [⟨"fn(A, B) -> C", "type"⟩, ⟨"T", "visitor"⟩]⟩]⟩ := by cbv
  have hgen := Target.generate_eq_ok_iff.mpr ⟨_, hread, (by decide +kernel :
    (Target.rust ⟨defaultDerives⟩).check _ = .ok ()), rfl⟩
  obtain ⟨f, hread', -, hnames, -, hall, -⟩ := declared_names_legal hgen
  obtain rfl := Except.ok.inj (hread.symm.trans hread')
  refine ⟨_, hgen, hall.mpr (by decide), ?_⟩
  rw [hnames]
  decide

/-- A family named by the lone underscore is accepted, and its enum is declared by it. -/
theorem underscore_declared :
    ∃ f, Family.read "_" ["A : T x"] = .ok f ∧
      (Target.rust ⟨defaultDerives⟩).generate "_" ["A : T x"] =
        .ok ((Target.rust ⟨defaultDerives⟩).unit f) ∧
      ⟨.type, "_"⟩ ∈ declaredNames ((Target.rust ⟨defaultDerives⟩).steps f) ∧
      ¬ DeclaredName.Legal ⟨.type, "_"⟩ := by
  have hread : Family.read "_" ["A : T x"] = .ok ⟨"_", [⟨"A", [⟨"T", "x"⟩]⟩]⟩ := by cbv
  have hgen := Target.generate_eq_ok_iff.mpr ⟨_, hread, (by decide +kernel :
    (Target.rust ⟨defaultDerives⟩).check _ = .ok ()), rfl⟩
  obtain ⟨-, hf⟩ := Family.wellFormed_of_read hread
  refine ⟨_, hread, hgen, ?_, fun hlegal => hlegal.ne_underscore rfl⟩
  rw [declaredNames_steps hf]
  decide

end VisitorGen.Rust
