import VisitorGen.Proofs.Layout.Nesting
import VisitorGen.Proofs.Target.Rows

set_option autoImplicit false

/-! # The nesting of a unit

Names have no braces, so all braces of a unit that are not in its types and options are those of the
template. Each piece opens and closes them as its steps change the level, also where a brace pair
stands within a line. If the types and the options have none either, the steps of a unit are nested
(`Target.nested_steps`), and its source text is indented by its braces
(`Target.source_indentedByBraces`). -/

namespace VisitorGen

open Text

/-! ## Texts without braces -/

/-- Braces are outside of names. -/
theorem noBraces_of {cs : List Char} (h : ∀ c, OutsideNames c → c ∉ cs) : NoBraces cs :=
  ⟨h _ {}, h _ {}⟩

theorem noBraces_of_isIdentifier {name : String} (h : isIdentifier name.toList = true) :
    NoBraces name.toList :=
  noBraces_of fun _ hc => hc.notMem h

theorem noBraces_intercalate {sep : String} (hsep : NoBraces sep.toList) {parts : List String}
    (hparts : ∀ part ∈ parts, NoBraces part.toList) :
    NoBraces (sep.intercalate parts).toList :=
  ⟨notMem_intercalate hsep.1 fun part hpart => (hparts part hpart).1,
    notMem_intercalate hsep.2 fun part hpart => (hparts part hpart).2⟩

/-! ## The pieces of C# -/

theorem CSharp.nested_base (l : Nat) : Nested l base l := by
  refine .line ?_ (.nil l)
  simp [Opens, acceptName, visitorName]

theorem CSharp.nested_epilogue : Nested 2 epilogue 0 :=
  .closing (.closing (.nil 0))

theorem CSharp.opens_brace : Opens 1 "\x7b" := by
  simp [Opens]

section

variable {f : Family} (hf : f.WellFormed)

include hf

theorem CSharp.nested_prelude {o : Options} (hspace : NoBraces o.space.toList) :
    Nested 0 (prelude o f) 2 := by
  have hname := noBraces_of_isIdentifier hf.name
  have husings : ∀ u ∈ usings, Opens 0 ("using " ++ u ++ ";") := by
    simp [usings, Opens]
  refine (Nested.map_line husings 0).append ?_
  refine .blank (.line ?_ (.opening opens_brace (.line ?_ (.opening opens_brace (.nil 2)))))
  · simp [Opens, hspace.braceDepth]
  · simp [Opens, hname.braceDepth]

theorem CSharp.opens_methodDeclaration {v : Variant} (hv : v.WellFormed) :
    Opens 0 (methodDeclaration f v) := by
  have hvariant := noBraces_of_isIdentifier hv.name
  have hdispatch := noBraces_of fun _ hc => hc.notMem_dispatchName hf hv
  have hparameter := noBraces_of fun _ hc => notMem_parameterName hc hf
  unfold methodDeclaration
  simp [Opens, hvariant.braceDepth_append, hdispatch.braceDepth_append,
    hparameter.braceDepth_append]

theorem CSharp.nested_visitor (l : Nat) : Nested l (visitor f) l := by
  have hmethods : ∀ v ∈ f.variants, Opens 0 (methodDeclaration f v) := fun v hv =>
    opens_methodDeclaration hf (hf.variants v hv)
  have hhead : Opens 0 ("public interface " ++ visitorName ++ "<R>") := by
    simp [Opens, visitorName]
  exact ((Nested.line hhead (.opening opens_brace (.nil _))).append
    (.map_line hmethods _)).append (.closing (.nil l))

theorem CSharp.nested_variant {v : Variant} (hv : v.WellFormed)
    (htypes : ∀ g ∈ v.fields, NoBraces g.type.toList) (l : Nat) : Nested l (variant f v) l := by
  have hname := noBraces_of_isIdentifier hf.name
  have hvariant := noBraces_of_isIdentifier hv.name
  have hdispatch := noBraces_of fun _ hc => hc.notMem_dispatchName hf hv
  have hnames : ∀ g ∈ v.fields, NoBraces (escape g.name).toList := fun g hg =>
    noBraces_of fun _ hc => notMem_escape hc (isIdentifierPart_of_mem (hv.fields g hg).name)
  have hparameters : ∀ g ∈ v.fields, NoBraces (parameter g).toList := fun g hg =>
    ⟨notMem_parameter {} (by decide) (hv.fields g hg) (htypes g hg).1,
      notMem_parameter {} (by decide) (hv.fields g hg) (htypes g hg).2⟩
  have hlist : NoBraces (String.intercalate ", " (v.fields.map parameter)).toList :=
    noBraces_intercalate (by simp [NoBraces]) (List.forall_mem_map.mpr hparameters)
  have hclass : Opens 0 ("public class " ++ v.name ++ " : " ++ f.name) := by
    simp [Opens, hvariant.braceDepth_append, hname.braceDepth]
  have hfields : ∀ g ∈ v.fields, Opens 0 ("public readonly " ++ parameter g ++ ";") := by
    intro g hg
    simp [Opens, (hparameters g hg).braceDepth_append]
  have hconstructor : Opens 0 ("public " ++ v.name ++ "(" ++
      String.intercalate ", " (v.fields.map parameter) ++ ")") := by
    simp [Opens, hvariant.braceDepth_append, hlist.braceDepth_append, -String.toList_intercalate]
  have hassignments : ∀ g ∈ v.fields,
      Opens 0 ("this." ++ escape g.name ++ " = " ++ escape g.name ++ ";") := by
    intro g hg
    simp [Opens, (hnames g hg).braceDepth_append]
  have haccept : Opens 0 ("public override R " ++ acceptName ++ "<R>(" ++ visitorName ++
      "<R> visitor)") := by
    simp [Opens, acceptName, visitorName]
  have hcall : Opens 0 ("return visitor." ++ dispatchName f.name v.name ++ "(this);") := by
    simp [Opens, hdispatch.braceDepth_append]
  have hfront : Nested l [.line ("public class " ++ v.name ++ " : " ++ f.name), .opening "\x7b"]
      (l + 1) := .line hclass (.opening opens_brace (.nil _))
  refine (((hfront.append (.map_line hfields _)).append
    (.line hconstructor (.opening opens_brace (.nil _)))).append (.map_line hassignments _)).append ?_
  exact .closing (.line haccept (.opening opens_brace (.line hcall
    (.closing (.closing (.blank (.nil l)))))))

/-! ## The pieces of Rust -/

theorem Rust.nested_prelude (l : Nat) : Nested l (prelude f) l := by
  have hname := noBraces_of_isIdentifier hf.name
  refine .line ?_ (.blank (.nil l))
  simp [Opens, hname.braceDepth_append]

theorem Rust.opens_methodDeclaration {v : Variant} (hv : v.WellFormed) :
    Opens 0 (methodDeclaration f v) := by
  have hvariant := noBraces_of_isIdentifier hv.name
  have hmethod := noBraces_of fun _ hc => notMem_methodName hc hf hv
  have hparameter := noBraces_of fun _ hc => notMem_parameterName hc hf
  unfold methodDeclaration
  simp [Opens, hvariant.braceDepth_append, hmethod.braceDepth_append,
    hparameter.braceDepth_append]

theorem Rust.nested_visitor (l : Nat) : Nested l (visitor f) l := by
  have hname := noBraces_of_isIdentifier hf.name
  have hmethods : ∀ v ∈ f.variants, Opens 0 (methodDeclaration f v) := fun v hv =>
    opens_methodDeclaration hf (hf.variants v hv)
  have hhead : Opens 1 ("pub trait " ++ visitorName f ++ "<R> \x7b") := by
    unfold visitorName
    simp [Opens, hname.braceDepth_append]
  exact ((Nested.opening hhead (.nil _)).append (.map_line hmethods _)).append
    (.closing (.blank (.nil l)))

omit hf in
theorem Rust.nested_deriveLine {o : Options} (hderives : ∀ d ∈ o.derives, NoBraces d.toList)
    (l : Nat) : Nested l (deriveLine o) l := by
  have hlist : NoBraces (String.intercalate ", " o.derives).toList :=
    noBraces_intercalate (by simp [NoBraces]) hderives
  rw [deriveLine]
  split
  · exact .nil l
  · refine .line ?_ (.nil l)
    simp [Opens, hlist.braceDepth_append, -String.toList_intercalate]

theorem Rust.opens_acceptHead : Opens 1 (acceptHead f) := by
  have hname := noBraces_of_isIdentifier hf.name
  unfold acceptHead visitorName
  simp [Opens, hname.braceDepth_append]

theorem Rust.nested_forwarding (l : Nat) : Nested l (forwarding f) l := by
  have hname := noBraces_of_isIdentifier hf.name
  rw [forwarding]
  split
  · -- the empty match opens and closes its braces in one line
    exact .line (by simp [Opens]) (.nil l)
  · have hcases : ∀ v ∈ f.variants,
        Opens 0 (f.name ++ "::" ++ v.name ++ "(node) => node.accept(visitor),") := by
      intro v hv
      have hvariant := noBraces_of_isIdentifier (hf.variants v hv).name
      simp [Opens, hname.braceDepth_append, hvariant.braceDepth_append]
    exact ((Nested.opening (by simp [Opens]) (.nil _)).append (.map_line hcases _)).append
      (.closing (.nil l))

theorem Rust.nested_base {o : Options} (hderives : ∀ d ∈ o.derives, NoBraces d.toList) (l : Nat) :
    Nested l (base o f) l := by
  have hname := noBraces_of_isIdentifier hf.name
  have henum : Opens 1 ("pub enum " ++ f.name ++ " \x7b") := by
    simp [Opens, hname.braceDepth_append]
  have himpl : Opens 1 ("impl " ++ f.name ++ " \x7b") := by
    simp [Opens, hname.braceDepth_append]
  have hvariants : ∀ v ∈ f.variants, Opens 0 (v.name ++ "(" ++ v.name ++ "),") := by
    intro v hv
    have hvariant := noBraces_of_isIdentifier (hf.variants v hv).name
    simp [Opens, hvariant.braceDepth_append]
  refine (((((nested_deriveLine hderives l).append (.opening henum (.nil _))).append
    (.map_line hvariants _)).append ?_).append (nested_forwarding hf (l + 2))).append ?_
  · exact .closing (.blank (.opening himpl (.opening (opens_acceptHead hf) (.nil (l + 2)))))
  · exact .closing (.closing (.blank (.nil l)))

omit hf in
/-- The braces of a constructor's body are in one line. -/
theorem Rust.opens_construction {v : Variant} (hv : v.WellFormed) : Opens 0 (construction v) := by
  have hnames : ∀ g ∈ v.fields, NoBraces (escape g.name).toList := fun g hg =>
    noBraces_of fun _ hc => notMem_escape hc (isIdentifierPart_of_mem (hv.fields g hg).name)
  have hlist : NoBraces (String.intercalate ", " (v.fields.map fun g => escape g.name)).toList :=
    noBraces_intercalate (by simp [NoBraces]) (List.forall_mem_map.mpr hnames)
  unfold construction
  split
  · simp [Opens]
  · simp [Opens, hlist.braceDepth_append, -String.toList_intercalate]

theorem Rust.nested_variant {o : Options} (hderives : ∀ d ∈ o.derives, NoBraces d.toList)
    {v : Variant} (hv : v.WellFormed) (htypes : ∀ g ∈ v.fields, NoBraces g.type.toList) (l : Nat) :
    Nested l (variant o f v) l := by
  have hname := noBraces_of_isIdentifier hf.name
  have hvariant := noBraces_of_isIdentifier hv.name
  have hmethod := noBraces_of fun _ hc => notMem_methodName hc hf hv
  have hdeclarations : ∀ g ∈ v.fields, NoBraces (declaration g).toList := fun g hg =>
    ⟨notMem_declaration {} (by decide) (by decide) (hv.fields g hg) (htypes g hg).1,
      notMem_declaration {} (by decide) (by decide) (hv.fields g hg) (htypes g hg).2⟩
  have hlist : NoBraces (String.intercalate ", " (v.fields.map declaration)).toList :=
    noBraces_intercalate (by simp [NoBraces]) (List.forall_mem_map.mpr hdeclarations)
  have hstruct : Opens 1 ("pub struct " ++ v.name ++ " \x7b") := by
    simp [Opens, hvariant.braceDepth_append]
  have hfields : ∀ g ∈ v.fields, Opens 0 ("pub " ++ declaration g ++ ",") := by
    intro g hg
    simp [Opens, (hdeclarations g hg).braceDepth_append]
  have himpl : Opens 1 ("impl " ++ v.name ++ " \x7b") := by
    simp [Opens, hvariant.braceDepth_append]
  have hallow : Opens 0 "#[allow(clippy::too_many_arguments)]" := by simp [Opens]
  have hnew : Opens 1 ("pub fn new(" ++ String.intercalate ", " (v.fields.map declaration) ++
      ") -> Self \x7b") := by
    simp [Opens, hlist.braceDepth_append, -String.toList_intercalate]
  have hcall : Opens 0 ("visitor." ++ methodName f v ++ "(self)") := by
    simp [Opens, hmethod.braceDepth_append]
  have hconversion : Opens 1 ("impl From<" ++ v.name ++ "> for " ++ f.name ++ " \x7b") := by
    simp [Opens, hvariant.braceDepth_append, hname.braceDepth_append]
  have hfrom : Opens 1 ("fn from(node: " ++ v.name ++ ") -> Self \x7b") := by
    simp [Opens, hvariant.braceDepth_append]
  have hcase : Opens 0 (f.name ++ "::" ++ v.name ++ "(node)") := by
    simp [Opens, hname.braceDepth_append, hvariant.braceDepth_append]
  refine (((nested_deriveLine hderives l).append (.opening hstruct (.nil _))).append
    (.map_line hfields _)).append ?_
  -- the constructor, then `accept`, then the conversion: each block returns to its first level
  refine .closing (.blank (.opening himpl (.line hallow (.opening hnew (.line (opens_construction hv)
    (.closing (.blank ?_)))))))
  refine .opening (opens_acceptHead hf) (.line hcall (.closing (.closing (.blank ?_))))
  exact .opening hconversion (.opening hfrom (.line hcase (.closing (.closing (.blank (.nil l))))))

/-! ## Whole units -/

/-- The steps of a unit are nested if there are no braces in its types and options. -/
theorem Target.nested_steps {t : Target}
    (htypes : ∀ v ∈ f.variants, ∀ g ∈ v.fields, NoBraces g.type.toList)
    (hoptions : t.OptionsAvoid '\x7b' ∧ t.OptionsAvoid '\x7d') : Nested 0 (t.steps f) 0 := by
  cases t with
  | csharp o =>
    have hvariants : Nested 2 (f.variants.flatMap (CSharp.variant f)) 2 := .flatMap fun v hv =>
      CSharp.nested_variant hf (hf.variants v hv) (htypes v hv) 2
    exact ((((CSharp.nested_prelude hf hoptions).append (CSharp.nested_visitor hf 2)).append
      (CSharp.nested_base 2)).append hvariants).append CSharp.nested_epilogue
  | rust o =>
    have hderives : ∀ d ∈ o.derives, NoBraces d.toList := fun d hd =>
      ⟨hoptions.1 d hd, hoptions.2 d hd⟩
    have hvariants : Nested 0 (f.variants.flatMap (Rust.variant o f)) 0 := .flatMap fun v hv =>
      Rust.nested_variant hf hderives (hf.variants v hv) (htypes v hv) 0
    exact ((((Rust.nested_prelude hf 0).append (Rust.nested_visitor hf 0)).append
      (Rust.nested_base hf hderives 0)).append hvariants).append (.nil 0)

end

theorem Target.noBraces_indentUnit (t : Target) : NoBraces t.indentUnit.toList := by
  cases t with
  | csharp o => simp [indentUnit, NoBraces]
  | rust o => simp [indentUnit, NoBraces]

/-- **Every unit is indented by its braces**, as long as its types and options have no braces and no
    newlines of their own. -/
theorem Target.source_indentedByBraces {t : Target} {name : String} {lines : List String}
    {u : SourceUnit} {f : Family} (hgen : t.generate name lines = .ok u)
    (hread : Family.read name lines = .ok f)
    (havoid : ∀ c ∈ ['\x7b', '\x7d', '\n'], f.TypesAvoid c ∧ t.OptionsAvoid c) :
    IndentedByBraces t.indentUnit.toList u.source.toList := by
  obtain ⟨rfl, hf⟩ := eq_unit_of_generate hgen hread
  obtain ⟨hopening, hopening'⟩ := havoid '\x7b' (by simp)
  obtain ⟨hclosing, hclosing'⟩ := havoid '\x7d' (by simp)
  obtain ⟨hnewline, hnewline'⟩ := havoid '\n' (by simp)
  have hnested : Nested 0 (t.steps f) 0 :=
    nested_steps hf (fun v hv g hg => ⟨hopening v hv g hg, hclosing v hv g hg⟩)
      ⟨hopening', hclosing'⟩
  rw [toList_source]
  exact hnested.indentedByBraces t.noBraces_indentUnit t.newline_notMem_indentUnit
    (areRows_steps hf hnewline hnewline')

/-- Pairs of braces in one line, and brackets in types, do not disturb the indentation. -/
theorem Target.source_indentedByBraces_tree :
    ∃ u, (Target.rust ⟨["Debug", "Clone"]⟩).generate "Tree"
        ["Leaf :", "Node : Box<[Tree; 2]> both, Vec<(A, B)> type"] = .ok u ∧
      IndentedByBraces "    ".toList u.source.toList := by
  have hread : Family.read "Tree" ["Leaf :", "Node : Box<[Tree; 2]> both, Vec<(A, B)> type"] =
      .ok ⟨"Tree", [⟨"Leaf", []⟩,
        ⟨"Node", [⟨"Box<[Tree; 2]>", "both"⟩, ⟨"Vec<(A, B)>", "type"⟩]⟩]⟩ := by cbv
  have hgen := Target.generate_eq_ok_iff.mpr ⟨_, hread, (by decide +kernel :
    (Target.rust ⟨["Debug", "Clone"]⟩).check _ = .ok ()), rfl⟩
  refine ⟨_, hgen, Target.source_indentedByBraces hgen hread fun c hc => ?_⟩
  simp only [List.mem_cons, List.not_mem_nil, or_false] at hc
  rcases hc with rfl | rfl | rfl <;> simp [Family.TypesAvoid, Target.OptionsAvoid]

end VisitorGen
