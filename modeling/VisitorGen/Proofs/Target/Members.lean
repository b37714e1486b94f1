import VisitorGen.Proofs.Target.Check
import VisitorGen.Proofs.Target.RowWords

set_option autoImplicit false

/-! # The members of a C# unit

The base class has the visitor interface, the dispatch method and the classes of the variants for
members, and each of these classes has its fields and a dispatch method of its own. Which member a
row declares can be told from its first words; only a field has its name at the end, behind its type
(`CSharp.memberIn`). The target compares the names of variants and fields with those around them, so
siblings differ, and no member of a variant has the name of its class. The name of the family is not
compared with those of the interface and of the method (`CSharp.members_apart`). -/

namespace VisitorGen.CSharp

open Text

/-! ## Reading members -/

/-- What kind of member a row declares. -/
inductive MemberKind where
  | baseClass
  | interface
  | method
  | variantClass
  | field
  deriving DecidableEq, Repr

/-- A member by its kind and its name, without the mark of an escaped name. -/
structure Member where
  kind : MemberKind
  name : String
  deriving DecidableEq, Repr

/-- The name that an escaped name stands for. -/
def unescape (name : String) : String :=
  String.ofList (name.toList.dropWhile (· == '@'))

/-- The last word of a row, before the mark that ends the row. -/
def lastWord (row : List Char) : String :=
  String.ofList ((row.reverse.drop 1).takeWhile isNameChar).reverse

/-- What a row declares by its first words. -/
def memberAfter (row : List Char) : List String → Option Member
  | ["public", "abstract", "class", name] => some ⟨.baseClass, name⟩
  | ["public", "interface", name] => some ⟨.interface, name⟩
  | ["public", "abstract", "R", name] => some ⟨.method, name⟩
  | ["public", "override", "R", name] => some ⟨.method, name⟩
  | ["public", "class", name, ""] => some ⟨.variantClass, name⟩
  -- the words may stop inside the type, so the name is taken from the end of the row
  | "public" :: "readonly" :: _ :: _ => some ⟨.field, unescape (lastWord row)⟩
  | _ => none

/-- The member that a row declares, if it declares one. -/
def memberIn (row : String) : Option Member :=
  memberAfter row.toList (readWords row.toList).1

/-- The members that the rows of a unit declare, in order. -/
def membersIn (steps : List Step) : List Member :=
  steps.filterMap fun step => memberIn step.text

theorem memberAfter_baseClass (row : List Char) (name : String) :
    memberAfter row ["public", "abstract", "class", name] = some ⟨.baseClass, name⟩ := rfl

theorem memberAfter_class (row : List Char) (name : String) :
    memberAfter row ["public", "class", name, ""] = some ⟨.variantClass, name⟩ := rfl

theorem memberAfter_readonly (row : List Char) {words : List String} (h : words ≠ []) :
    memberAfter row ("public" :: "readonly" :: words) = some ⟨.field, unescape (lastWord row)⟩ := by
  obtain ⟨word, words, rfl⟩ := List.exists_cons_of_ne_nil h
  rfl

/-- Members are public. -/
theorem memberAfter_of_ne (row : List Char) {word : String} (h : word ≠ "public")
    (words : List String) : memberAfter row (word :: words) = none := by
  rw [memberAfter.eq_def]
  split <;> simp_all

/-- A constructor is no member with a name of its own. -/
theorem memberAfter_pair (row : List Char) (name : String) :
    memberAfter row ["public", name] = none := by
  rw [memberAfter.eq_def]
  split <;> simp_all

@[simp] theorem membersIn_nil : membersIn [] = [] := rfl

theorem membersIn_cons (step : Step) (steps : List Step) :
    membersIn (step :: steps) = (memberIn step.text).toList ++ membersIn steps := by
  rw [membersIn, List.filterMap_cons]
  cases memberIn step.text <;> rfl

theorem membersIn_append (as bs : List Step) :
    membersIn (as ++ bs) = membersIn as ++ membersIn bs :=
  List.filterMap_append

theorem membersIn_flatMap {α : Type} (piece : α → List Step) (xs : List α) :
    membersIn (xs.flatMap piece) = xs.flatMap fun x => membersIn (piece x) :=
  List.filterMap_flatMap

theorem membersIn_map_line {α : Type} {text : α → String} {xs : List α} {member : α → Member}
    (h : ∀ x ∈ xs, memberIn (text x) = some (member x)) :
    membersIn (xs.map fun x => .line (text x)) = xs.map member := by
  rw [membersIn, List.filterMap_map]
  exact List.filterMap_eq_map_iff_forall_eq_some.mpr h

theorem membersIn_map_line_nil {α : Type} {text : α → String} {xs : List α}
    (h : ∀ x ∈ xs, memberIn (text x) = none) :
    membersIn (xs.map fun x => .line (text x)) = [] := by
  rw [membersIn, List.filterMap_map, List.filterMap_eq_nil_iff]
  exact h

/-! ## Rows -/

/-- Brackets and blank rows declare no member. -/
theorem memberIn_mark : memberIn "" = none ∧ memberIn "\x7b" = none ∧ memberIn "\x7d" = none := by
  decide

/-- A row that starts with another word declares no member. -/
theorem memberIn_of_words {row word : String} {words : List String} {rest : List Char}
    (h : readWords row.toList = (word :: words, rest)) (hpublic : word ≠ "public") :
    memberIn row = none := by
  rw [memberIn, h, memberAfter_of_ne _ hpublic]

theorem memberIn_baseClass {name : String} (h : isWord name = true) :
    memberIn ("public abstract class " ++ name) = some ⟨.baseClass, name⟩ := by
  rw [memberIn, words_baseClass h, memberAfter_baseClass]

theorem memberIn_class {name : String} (h : isWord name = true) (base : String) :
    memberIn ("public class " ++ name ++ " : " ++ base) = some ⟨.variantClass, name⟩ := by
  rw [memberIn, words_class h, memberAfter_class]

theorem memberIn_constructor {name : String} (h : isWord name = true) (parameters : String) :
    memberIn ("public " ++ name ++ "(" ++ parameters ++ ")") = none := by
  rw [memberIn, words_constructor h, memberAfter_pair]

/-- The last word of a row stands behind its last space. -/
theorem lastWord_append {word : String} (h : isWord word = true) (front : List Char) (mark : Char) :
    lastWord (front ++ ' ' :: (word.toList ++ [mark])) = word := by
  have hreverse : (front ++ ' ' :: (word.toList ++ [mark])).reverse.drop 1 =
      word.toList.reverse ++ ' ' :: front.reverse := by simp
  have hchars : ∀ c ∈ word.toList.reverse, isNameChar c = true := fun c hc =>
    List.all_eq_true.mp h c (List.mem_reverse.mp hc)
  rw [lastWord, hreverse, List.takeWhile_append_of_pos hchars,
    List.takeWhile_cons_of_neg (by decide), List.append_nil, List.reverse_reverse,
    String.ofList_toList]

theorem unescape_escape {name : String} (h : isIdentifier name.toList = true) :
    unescape (escape name) = name := by
  have hkeep : name.toList.dropWhile (· == '@') = name.toList := by
    cases hlist : name.toList with
    | nil => rfl
    | cons c cs =>
      have hne : c ≠ '@' := by
        rintro rfl
        exact absurd (isIdentifierPart_of_mem h '@' (by simp [hlist])) (by decide)
      exact List.dropWhile_cons_of_neg (by simpa using hne)
  rw [escape]
  split
  · rw [unescape, String.toList_append]
    show String.ofList (name.toList.dropWhile (· == '@')) = name
    rw [hkeep, String.ofList_toList]
  · rw [unescape, hkeep, String.ofList_toList]

/-- The type of a field ends at the last space of its row. -/
theorem memberIn_field {g : Field} (hg : g.WellFormed) :
    memberIn ("public readonly " ++ parameter g ++ ";") = some ⟨.field, g.name⟩ := by
  have hlast : lastWord ("public readonly " ++ parameter g ++ ";").toList = escape g.name := by
    have hfront : ("public readonly " ++ parameter g ++ ";").toList =
        ("public readonly " ++ g.type).toList ++ ' ' :: ((escape g.name).toList ++ [';']) := by
      unfold parameter
      simp
    rw [hfront, lastWord_append (isWord_escape (isIdentifierPart_of_mem hg.name))]
  rw [memberIn, words_field, memberAfter_readonly _ (readWords_ne_nil _), hlast,
    unescape_escape hg.name]

/-! ## The pieces of a unit -/

/-- The members that stand in the class of a variant, behind the class itself. -/
def classMembers (v : Variant) : List Member :=
  ⟨.variantClass, v.name⟩ :: (v.fields.map fun g => ⟨.field, g.name⟩) ++ [⟨.method, "Accept"⟩]

section

variable {f : Family} (hf : f.WellFormed)

include hf

theorem membersIn_prelude (o : Options) : membersIn (prelude o f) = [⟨.baseClass, f.name⟩] := by
  have husings : membersIn (usings.map fun u => .line ("using " ++ u ++ ";")) = [] := by
    decide
  rw [prelude, membersIn_append, husings]
  simp [membersIn_cons, memberIn_mark, memberIn_of_words (words_namespace o.space) (by decide),
    memberIn_baseClass (isWord_of_isIdentifier hf.name)]

theorem membersIn_visitor : membersIn (visitor f) = [⟨.interface, "IVisitor"⟩] := by
  have hmethod : ∀ v ∈ f.variants, memberIn (methodDeclaration f v) = none := fun v hv =>
    memberIn_of_words (words_methodDeclaration hf (hf.variants v hv)) (by decide)
  have hhead : memberIn ("public interface " ++ visitorName ++ "<R>") =
      some ⟨.interface, "IVisitor"⟩ := by decide
  rw [visitor, membersIn_append, membersIn_append, membersIn_map_line_nil hmethod]
  simp [membersIn_cons, memberIn_mark, hhead]

omit hf in
theorem membersIn_base : membersIn base = [⟨.method, "Accept"⟩] := by
  decide

omit hf in
theorem membersIn_epilogue : membersIn epilogue = [] := by
  decide

theorem membersIn_variant {v : Variant} (hv : v ∈ f.variants) :
    membersIn (variant f v) = classMembers v := by
  have hname := isWord_of_isIdentifier (hf.variants v hv).name
  have hfields : membersIn (v.fields.map fun g => .line ("public readonly " ++ parameter g ++ ";")) =
      _ := membersIn_map_line fun g hg => memberIn_field ((hf.variants v hv).fields g hg)
  have hassignment : ∀ g ∈ v.fields,
      memberIn ("this." ++ escape g.name ++ " = " ++ escape g.name ++ ";") = none := fun g _ =>
    memberIn_of_words (words_assignment g) (by decide)
  have haccept : memberIn ("public override R " ++ acceptName ++ "<R>(" ++ visitorName ++
      "<R> visitor)") = some ⟨.method, "Accept"⟩ := by decide
  rw [variant, classMembers]
  simp only [membersIn_append, hfields, membersIn_map_line_nil hassignment]
  simp [membersIn_cons, memberIn_mark, memberIn_class hname, memberIn_constructor hname, haccept,
    memberIn_of_words (words_return (dispatchName f.name v.name)) (by decide)]

/-- The members of a unit, class by class. -/
theorem membersIn_steps (o : Options) : membersIn ((Target.csharp o).steps f) =
    ⟨.baseClass, f.name⟩ :: ⟨.interface, "IVisitor"⟩ :: ⟨.method, "Accept"⟩ ::
      f.variants.flatMap classMembers := by
  have hvariants := List.flatMap_congr fun v hv => membersIn_variant hf hv
  simp only [Target.steps, Target.prelude, Target.visitor, Target.base, Target.variant,
    Target.epilogue, membersIn_append, membersIn_flatMap, membersIn_prelude hf, membersIn_visitor hf,
    membersIn_base, membersIn_epilogue, hvariants]
  simp

end

/-! ## What the target checks -/

theorem checkFields_eq_ok_iff {className : String} {fs : List Field} :
    checkFields className fs = .ok () ↔ ∀ g ∈ fs, g.name ≠ className ∧ g.name ≠ acceptName := by
  induction fs with
  | nil => simp [checkFields]
  | cons g fs ih =>
    rw [checkFields, List.forall_mem_cons, ← ih]
    split
    · next hclass => simp [hclass]
    · next hclass =>
      split
      · next haccept => simp [haccept]
      · next haccept => simp [hclass, haccept]

/-- A variant that can be declared takes no name of the base class, and its fields take none of its
    own. -/
theorem names_apart_of_checkVariant {v : Variant} (h : checkVariant v = .ok ()) :
    v.name ≠ visitorName ∧ v.name ≠ acceptName ∧ v.name ∉ v.fieldNames ∧
      acceptName ∉ v.fieldNames := by
  rw [checkVariant] at h
  split at h
  · exact absurd h (by simp)
  · split at h
    · exact absurd h (by simp)
    · next hname =>
      have hfields := checkFields_eq_ok_iff.mp h
      rw [not_or] at hname
      refine ⟨hname.1, hname.2, fun hmem => ?_, fun hmem => ?_⟩
      · obtain ⟨g, hg, heq⟩ := List.mem_map.mp hmem
        exact (hfields g hg).1 heq
      · obtain ⟨g, hg, heq⟩ := List.mem_map.mp hmem
        exact (hfields g hg).2 heq

/-- **The members of a C# unit.** The members of the base class have different names, and in the class
    of a variant neither a field nor the dispatch method has the name of the class, and no field that
    of the method. A member of the base class has the name of this class only if the family is named
    as the interface or as the dispatch method, which the target does not check. -/
theorem members_apart {o : Options} {name : String} {lines : List String} {u : SourceUnit}
    (h : (Target.csharp o).generate name lines = .ok u) :
    ∃ f, Family.read name lines = .ok f ∧ u = (Target.csharp o).unit f ∧
      membersIn ((Target.csharp o).steps f) =
        ⟨.baseClass, f.name⟩ :: ⟨.interface, "IVisitor"⟩ :: ⟨.method, "Accept"⟩ ::
          f.variants.flatMap classMembers ∧
      ("IVisitor" :: "Accept" :: f.variantNames).Nodup ∧
      (f.name ∉ "IVisitor" :: "Accept" :: f.variantNames ↔
        f.name ≠ "IVisitor" ∧ f.name ≠ "Accept") ∧
      ∀ v ∈ f.variants, v.name ≠ "Accept" ∧ v.name ∉ v.fieldNames ∧ "Accept" ∉ v.fieldNames := by
  obtain ⟨f, hread, hcheck, rfl⟩ := Target.generate_eq_ok_iff.mp h
  obtain ⟨-, hf⟩ := Family.wellFormed_of_read hread
  obtain ⟨-, hvariants⟩ := Target.check_eq_ok_iff.mp hcheck
  have hapart : ∀ v ∈ f.variants, v.name ≠ "IVisitor" ∧ v.name ≠ "Accept" ∧
      v.name ∉ v.fieldNames ∧ "Accept" ∉ v.fieldNames := fun v hv =>
    names_apart_of_checkVariant (hvariants v hv)
  refine ⟨f, hread, rfl, membersIn_steps hf o, ?_, ?_, fun v hv => (hapart v hv).2⟩
  · have hvisitor : "IVisitor" ∉ f.variantNames := by
      intro hmem
      obtain ⟨v, hv, heq⟩ := List.mem_map.mp hmem
      exact (hapart v hv).1 heq
    have haccept : "Accept" ∉ f.variantNames := by
      intro hmem
      obtain ⟨v, hv, heq⟩ := List.mem_map.mp hmem
      exact (hapart v hv).2.1 heq
    simp [hvisitor, haccept, hf.distinct]
  · simp [hf.name_notMem]

/-- Names that differ from those of their class in case or by an underscore do not clash. -/
theorem members_apart_accept :
    ∃ u, (Target.csharp ⟨defaultSpace⟩).generate "accept" ["IVisitor_ : T accept, List<A, B> class"] =
        .ok u ∧
      let f : Family := ⟨"accept", [⟨"IVisitor_", [⟨"T", "accept"⟩, ⟨"List<A, B>", "class"⟩]⟩]⟩
      membersIn ((Target.csharp ⟨defaultSpace⟩).steps f) =
        [⟨.baseClass, "accept"⟩, ⟨.interface, "IVisitor"⟩, ⟨.method, "Accept"⟩,
         ⟨.variantClass, "IVisitor_"⟩, ⟨.field, "accept"⟩, ⟨.field, "class"⟩, ⟨.method, "Accept"⟩] ∧
      "accept" ∉ ["IVisitor", "Accept", "IVisitor_"] := by
  have hread : Family.read "accept" ["IVisitor_ : T accept, List<A, B> class"] =
      .ok ⟨"accept", [⟨"IVisitor_", [⟨"T", "accept"⟩, ⟨"List<A, B>", "class"⟩]⟩]⟩ := by cbv
  have hgen := Target.generate_eq_ok_iff.mpr ⟨_, hread, (by decide +kernel :
    (Target.csharp ⟨defaultSpace⟩).check _ = .ok ()), rfl⟩
  obtain ⟨f, hread', -, hmembers, -, hname, -⟩ := members_apart hgen
  obtain rfl := Except.ok.inj (hread.symm.trans hread')
  exact ⟨_, hgen, hmembers, hname.mpr (by decide)⟩

/-- A family with the name of the dispatch method is accepted, and the base class has its name. -/
theorem base_class_named_accept :
    ∃ f, Family.read "Accept" ["Literal : object value"] = .ok f ∧
      (Target.csharp ⟨defaultSpace⟩).generate "Accept" ["Literal : object value"] =
        .ok ((Target.csharp ⟨defaultSpace⟩).unit f) ∧
      membersIn ((Target.csharp ⟨defaultSpace⟩).steps f) =
        [⟨.baseClass, "Accept"⟩, ⟨.interface, "IVisitor"⟩, ⟨.method, "Accept"⟩,
         ⟨.variantClass, "Literal"⟩, ⟨.field, "value"⟩, ⟨.method, "Accept"⟩] ∧
      f.name ∈ "IVisitor" :: "Accept" :: f.variantNames := by
  have hread : Family.read "Accept" ["Literal : object value"] =
      .ok ⟨"Accept", [⟨"Literal", [⟨"object", "value"⟩]⟩]⟩ := by cbv
  obtain ⟨-, hf⟩ := Family.wellFormed_of_read hread
  refine ⟨_, hread, Target.generate_eq_ok_iff.mpr ⟨_, hread, by decide +kernel, rfl⟩, ?_, by decide⟩
  rw [membersIn_steps hf]
  rfl

end VisitorGen.CSharp
