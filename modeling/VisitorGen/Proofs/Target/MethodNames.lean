import VisitorGen.Proofs.Declaration.Families
import VisitorGen.Proofs.Target.FileName

set_option autoImplicit false

/-! # The names of the visitor's methods

The Rust visitor has a method for each variant, named after the variant and the family in snake
case. The family and the leading verb are the same in all of these names, so what tells two of them
apart is the *stem*, the snake case of the variant between its neighbours
(`Rust.methodName_eq_iff`). Variants that differ in case or in underscores alone can have the same
stem, and then the trait declares one method twice. Camel case excludes this
(`Rust.declared_once_iff`). -/

namespace VisitorGen

open Text

/-! ## Stems -/

namespace Rust

/-- What a method's name shows of its variant: the variant in snake case, behind the lower-case verb
    and with the word mark of the family. -/
def methodStem (family variant : String) : List Char :=
  snakeBetween (some 't') family.toList variant.toList

/-- Every method of a family has its stem between the same two texts. -/
theorem exists_toList_methodName {f : Family} (hname : f.name ≠ "") :
    ∃ tail, ∀ v, (methodName f v).toList = "visit".toList ++ (methodStem f.name v.name ++ tail) := by
  cases hfamily : f.name.toList with
  | nil => exact absurd (String.toList_eq_nil_iff.mp hfamily) hname
  | cons c cs =>
    refine ⟨snakeLetter c ++ snakeAfter (some c) cs, fun v => ?_⟩
    have hverb : ∀ rest, snakeAfter none ("Visit".toList ++ rest) =
        "visit".toList ++ snakeAfter (some 't') rest := fun rest => rfl
    rw [methodName, snakeCase, String.toList_ofList, dispatchName, String.toList_append,
      String.toList_append, List.append_assoc, hverb, hfamily, snakeAfter_append_cons, methodStem,
      hfamily]

theorem methodName_eq_iff {f : Family} (hname : f.name ≠ "") (v w : Variant) :
    methodName f v = methodName f w ↔ methodStem f.name v.name = methodStem f.name w.name := by
  obtain ⟨tail, htail⟩ := exists_toList_methodName hname
  rw [← String.toList_inj, htail, htail, List.append_cancel_left_eq, List.append_cancel_right_eq]

/-- Variants with the same method differ at most in case and in underscores. -/
theorem bareLetters_eq_of_methodName {f : Family} (hf : f.WellFormed) {v w : Variant}
    (hv : v ∈ f.variants) (hw : w ∈ f.variants) (h : methodName f v = methodName f w) :
    bareLetters v.name.toList = bareLetters w.name.toList := by
  have hletters : ∀ x ∈ f.variants,
      (methodStem f.name x.name).filter (· != '_') = bareLetters x.name.toList := fun x hx =>
    filter_snakeBetween (isIdentifierPart_of_mem (hf.variants x hx).name) _ _
  rw [methodName_eq_iff hf.name_ne_empty] at h
  rw [← hletters v hv, ← hletters w hw, h]

/-- Variants in camel case have different methods. -/
theorem name_eq_of_methodName {f : Family} (hf : f.WellFormed) {v w : Variant}
    (hv : v ∈ f.variants) (hw : w ∈ f.variants) (hcamel : isCamelCase v.name = true)
    (hcamel' : isCamelCase w.name = true) (h : methodName f v = methodName f w) :
    v.name = w.name := by
  have hread : ∀ x ∈ f.variants, isCamelCase x.name = true →
      camelOf false (methodStem f.name x.name) = x.name.toList := by
    intro x hx hx'
    have hafter : isCamelAfter (isUpper 't') x.name.toList = true := hx'
    exact camelOf_snakeBetween (isIdentifierPart_of_mem (hf.variants x hx).name) (by decide)
      (by decide) hafter _
  rw [methodName_eq_iff hf.name_ne_empty] at h
  rw [← String.toList_inj, ← hread v hv hcamel, ← hread w hw hcamel', h]

/-! ## Methods that are declared once -/

/-- The names of the methods that the visitor declares, in order. -/
def methodNames (f : Family) : List String :=
  f.variants.map (methodName f)

end Rust

theorem Family.WellFormed.nodup_variants {f : Family} (hf : f.WellFormed) : f.variants.Nodup :=
  List.Nodup.of_map _ hf.distinct

theorem Family.WellFormed.eq_of_name {f : Family} (hf : f.WellFormed) {v w : Variant}
    (hv : v ∈ f.variants) (hw : w ∈ f.variants) (h : v.name = w.name) : v = w :=
  List.inj_on_of_nodup_map hf.distinct hv hw h

/-- The image of an element occurs once among the images of a list exactly if the element shares it
    with no other one. -/
theorem count_map_eq_one_iff {α β : Type} [DecidableEq β] {g : α → β} {l : List α}
    (hl : l.Nodup) {a : α} (ha : a ∈ l) :
    (l.map g).count (g a) = 1 ↔ ∀ b ∈ l, g b = g a → b = a := by
  obtain ⟨front, back, rfl⟩ := List.append_of_mem ha
  rw [List.nodup_middle, List.nodup_cons, List.mem_append, not_or] at hl
  rw [List.map_append, List.map_cons, List.count_append, List.count_cons_self]
  have hcount : (front.map g).count (g a) + ((back.map g).count (g a) + 1) = 1 ↔
      g a ∉ front.map g ∧ g a ∉ back.map g := by
    rw [← List.count_eq_zero, ← List.count_eq_zero]
    omega
  rw [hcount]
  constructor
  · rintro ⟨hfront, hback⟩ b hb heq
    rcases List.mem_append.mp hb with hb | hb
    · exact absurd (List.mem_map.mpr ⟨b, hb, heq⟩) hfront
    · rcases List.mem_cons.mp hb with rfl | hb
      · rfl
      · exact absurd (List.mem_map.mpr ⟨b, hb, heq⟩) hback
  · intro h
    constructor
    · intro hmem
      obtain ⟨b, hb, heq⟩ := List.mem_map.mp hmem
      exact hl.1.1 (h b (by simp [hb]) heq ▸ hb)
    · intro hmem
      obtain ⟨b, hb, heq⟩ := List.mem_map.mp hmem
      exact hl.1.2 (h b (by simp [hb]) heq ▸ hb)

/-- **Which visitor methods are declared once.** In the trait of an accepted family the method of a
    variant is declared once exactly if no other variant has its stem, and so all methods are
    different exactly if all stems are. Variants that share a method differ in case and underscores
    alone, and variants in camel case share none. -/
theorem Rust.declared_once_iff {o : Rust.Options} {name : String} {lines : List String}
    {u : SourceUnit} (h : (Target.rust o).generate name lines = .ok u) :
    ∃ f, Family.read name lines = .ok f ∧
      (∀ v ∈ f.variants, ((methodNames f).count (methodName f v) = 1 ↔
        ∀ w ∈ f.variants, methodStem f.name w.name = methodStem f.name v.name → w = v)) ∧
      ((methodNames f).Nodup ↔ (f.variants.map fun v => methodStem f.name v.name).Nodup) ∧
      (∀ v ∈ f.variants, ∀ w ∈ f.variants, methodName f v = methodName f w →
        bareLetters v.name.toList = bareLetters w.name.toList) ∧
      ((∀ v ∈ f.variants, isCamelCase v.name = true) → (methodNames f).Nodup) := by
  obtain ⟨f, hread, -, -⟩ := Target.generate_eq_ok_iff.mp h
  obtain ⟨-, hf⟩ := Family.wellFormed_of_read hread
  refine ⟨f, hread, fun v hv => ?_, ?_, fun v hv w hw => ?_, fun hcamel => ?_⟩
  · rw [methodNames, count_map_eq_one_iff hf.nodup_variants hv]
    simp only [methodName_eq_iff hf.name_ne_empty]
  · simp only [methodNames, List.Nodup, List.pairwise_map, ne_eq, methodName_eq_iff hf.name_ne_empty]
  · exact bareLetters_eq_of_methodName hf hv hw
  · refine hf.nodup_variants.map_on fun v hv w hw heq => ?_
    exact hf.eq_of_name hv hw (name_eq_of_methodName hf hv hw (hcamel v hv) (hcamel w hw) heq)

/-- Five variants of a family, of which four look alike. -/
def Family.shape : Family :=
  ⟨"Shape", [⟨"PointB", []⟩, ⟨"Pointb", []⟩, ⟨"Self2", []⟩, ⟨"sELf2", []⟩, ⟨"Self_2", []⟩]⟩

/-- Capitals and underscores at different places make different words. -/
theorem Rust.declared_once_shape :
    ∃ u, (Target.rust ⟨defaultDerives⟩).generate "Shape"
        ["PointB :", "Pointb :", "Self2 :", "sELf2 :", "Self_2 :"] = .ok u ∧
      (methodNames Family.shape).Nodup := by
  have hread : Family.read "Shape" ["PointB :", "Pointb :", "Self2 :", "sELf2 :", "Self_2 :"] =
      .ok Family.shape := by cbv
  have hgen : (Target.rust ⟨defaultDerives⟩).generate "Shape"
      ["PointB :", "Pointb :", "Self2 :", "sELf2 :", "Self_2 :"] =
        .ok ((Target.rust ⟨defaultDerives⟩).unit Family.shape) :=
    Target.generate_eq_ok_iff.mpr ⟨_, hread, by decide +kernel, rfl⟩
  obtain ⟨f, hf, -, hnodup, -⟩ := Rust.declared_once_iff hgen
  obtain rfl : Family.shape = f := Except.ok.inj (hread.symm.trans hf)
  exact ⟨_, hgen, hnodup.mpr (by decide)⟩

/-- Two names that differ in the case of one letter are accepted, and their method is declared
    twice. -/
theorem Rust.method_declared_twice :
    ∃ f u, Family.read "Expr" ["AB : T x", "Ab : T x"] = .ok f ∧
      (Target.rust ⟨defaultDerives⟩).generate "Expr" ["AB : T x", "Ab : T x"] = .ok u ∧
      methodNames f = ["visit_ab_expr", "visit_ab_expr"] ∧ ¬ (methodNames f).Nodup := by
  have hread : Family.read "Expr" ["AB : T x", "Ab : T x"] =
      .ok ⟨"Expr", [⟨"AB", [⟨"T", "x"⟩]⟩, ⟨"Ab", [⟨"T", "x"⟩]⟩]⟩ := by cbv
  have hnames : methodNames ⟨"Expr", [⟨"AB", [⟨"T", "x"⟩]⟩, ⟨"Ab", [⟨"T", "x"⟩]⟩]⟩ =
      ["visit_ab_expr", "visit_ab_expr"] := by decide
  refine ⟨_, _, hread, Target.generate_eq_ok_iff.mpr ⟨_, hread, by decide +kernel, rfl⟩, hnames, ?_⟩
  rw [hnames]
  decide

end VisitorGen
