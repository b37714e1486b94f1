import VisitorGen.Proofs.Target.Rows

set_option autoImplicit false

/-! # Decoding a unit

The source text of a unit determines its family (`Target.family_eq_of_source`). It is decoded from
its start, piece by piece. Two texts that are equal start with equal rows, and what is the same in
both can be taken off, whatever it is; in this way the options of the target drop out. From the
first row that is left the family's name is read, from the visitor the names of the variants, and
then each variant in turn tells its fields. Names and types cannot imitate the rows around them: a
row starts with a word of the template, and a name ends where the template goes on. -/

namespace VisitorGen

open Text

attribute [ext] Field Variant Family

/-! ## Names and fields -/

theorem outsideNames_space : OutsideNames ' ' := {}

theorem outsideNames_colon : OutsideNames ':' := {}

/-- A name is read back from its escaped form, since the mark is not part of any name. -/
theorem name_eq_of_escaped {mark : String} {c : Char} (hc : c ∈ mark.toList)
    (hpart : isIdentifierPart c = false) {a b : String} (ha : isIdentifier a.toList = true)
    (hb : isIdentifier b.toList = true) {p q : Prop} [Decidable p] [Decidable q]
    (h : (if p then mark ++ a else a) = if q then mark ++ b else b) : a = b := by
  have hmark : ∀ {x y : String}, isIdentifier y.toList = true → mark ++ x ≠ y := by
    rintro x _ hy rfl
    exact notMem_of_isIdentifierPart hpart (isIdentifierPart_of_mem hy) (by simp [hc])
  by_cases hp : p <;> by_cases hq : q <;> simp only [hp, hq, if_true, if_false] at h
  · rwa [← String.toList_inj, String.toList_append, String.toList_append,
      List.append_cancel_left_eq, String.toList_inj] at h
  · exact absurd h (hmark hb)
  · exact absurd h.symm (hmark ha)
  · exact h

theorem CSharp.escape_inj {a b : String} (ha : isIdentifier a.toList = true)
    (hb : isIdentifier b.toList = true) (h : escape a = escape b) : a = b := by
  rw [escape, escape] at h
  exact name_eq_of_escaped (c := '@') (by simp) (by decide) ha hb h

theorem Rust.escape_inj {a b : String} (ha : isIdentifier a.toList = true)
    (hb : isIdentifier b.toList = true) (h : escape a = escape b) : a = b := by
  rw [escape, escape] at h
  exact name_eq_of_escaped (c := '#') (by simp) (by decide) ha hb h

/-- The type of a parameter ends at the last space. -/
theorem CSharp.parameter_inj {g k : Field} (hg : g.WellFormed) (hk : k.WellFormed)
    (h : parameter g = parameter k) : g = k := by
  have hspace : ∀ {x : Field}, x.WellFormed → ' ' ∉ (escape x.name).toList := fun hx =>
    notMem_escape outsideNames_space (isIdentifierPart_of_mem hx.name)
  unfold parameter at h
  rw [← String.toList_inj] at h
  simp only [String.toList_append, List.append_assoc] at h
  obtain ⟨htype, hname⟩ := (append_cons_inj_right (hspace hg) (hspace hk)).mp h
  rw [String.toList_inj] at htype hname
  exact Field.ext htype (escape_inj hg.name hk.name hname)

/-- The name of a declared field ends at the first colon. -/
theorem Rust.declaration_inj {g k : Field} (hg : g.WellFormed) (hk : k.WellFormed)
    (h : declaration g = declaration k) : g = k := by
  have hcolon : ∀ {x : Field}, x.WellFormed → ':' ∉ (escape x.name).toList := fun hx =>
    notMem_escape outsideNames_colon (isIdentifierPart_of_mem hx.name)
  unfold declaration at h
  rw [← String.toList_inj] at h
  simp only [String.toList_append, List.append_assoc] at h
  obtain ⟨hname, htype⟩ := (append_cons_inj (hcolon hg) (hcolon hk)).mp h
  rw [String.toList_inj] at hname
  exact Field.ext (by simpa [String.toList_inj] using htype) (escape_inj hg.name hk.name hname)

/-- The variant of a method is its first argument's type. -/
theorem CSharp.name_eq_of_methodDeclaration {f : Family} (hf : f.WellFormed) {v w : Variant}
    (hv : v.WellFormed) (hw : w.WellFormed) (h : methodDeclaration f v = methodDeclaration f w) :
    v.name = w.name := by
  unfold methodDeclaration at h
  rw [← String.toList_inj] at h
  simp only [String.toList_append, List.append_assoc, List.append_cancel_left_eq] at h
  obtain ⟨-, -, hrest⟩ := identifier_append_inj (isIdentifierPart_of_mem_dispatchName hf.name hv.name)
    (isIdentifierPart_of_mem_dispatchName hf.name hw.name) (by decide) (by decide) h
  have hname := (identifier_append_inj (isIdentifierPart_of_mem hv.name)
    (isIdentifierPart_of_mem hw.name) (by decide) (by decide) hrest).1
  exact String.toList_inj.mp hname

/-- The variant of a method is the type of its last argument. -/
theorem Rust.name_eq_of_methodDeclaration {f : Family} (hf : f.WellFormed) {v w : Variant}
    (hv : v.WellFormed) (hw : w.WellFormed) (h : methodDeclaration f v = methodDeclaration f w) :
    v.name = w.name := by
  have hmethod : ∀ {x : Variant}, x.WellFormed →
      ∀ c ∈ (methodName f x).toList, isIdentifierPart c = true := fun hx =>
    isIdentifierPart_of_mem_snakeCase (isIdentifierPart_of_mem_dispatchName hf.name hx.name)
  unfold methodDeclaration at h
  rw [← String.toList_inj] at h
  simp only [String.toList_append, List.append_assoc, List.append_cancel_left_eq] at h
  obtain ⟨-, -, hrest⟩ := identifier_append_inj (hmethod hv) (hmethod hw) (by decide) (by decide) h
  rw [← String.toList_inj]
  simpa using hrest

/-! ## Rows that differ -/

/-- Two lists of steps write the same text, from some level on. -/
def Target.SameText (t : Target) (as bs : List Step) : Prop :=
  ∃ level, layout t.indentUnit level as = layout t.indentUnit level bs

namespace Target.SameText

variable {t : Target} {as bs : List Step}

/-- The same steps can be taken off the fronts of the same text. -/
theorem of_append (front : List Step) (h : t.SameText (front ++ as) (front ++ bs)) :
    t.SameText as bs := by
  obtain ⟨level, h⟩ := h
  exact ⟨_, layout_append_inj.mp h⟩

/-- The same text starts with the same row. -/
theorem head {step step' : Step} (h : t.SameText (step :: as) (step' :: bs))
    (hstep : IsRow step.text) (hstep' : IsRow step'.text) : step.text = step'.text := by
  obtain ⟨level, h⟩ := h
  have hrow := ((layout_cons_inj
    (Step.newline_notMem_row t.newline_notMem_indentUnit level hstep.1)
    (Step.newline_notMem_row t.newline_notMem_indentUnit level hstep'.1)).mp h).1
  exact Step.text_eq_of_row t.allBlank_indentUnit hstep hstep' hrow

/-- A line at the front is read back. -/
theorem line {text text' : String} (h : t.SameText (.line text :: as) (.line text' :: bs))
    (htext : IsRow text) (htext' : IsRow text') : text = text' ∧ t.SameText as bs := by
  have hhead : text = text' := h.head htext htext'
  subst hhead
  exact ⟨rfl, h.of_append [_]⟩

/-- Lines at the front are read back as far as their texts tell, if they can be told from the rows
    that follow them. -/
theorem lines {α β : Type} {xs ys : List α} {text text' : α → String} {stop stop' : Step}
    (h : t.SameText (xs.map (fun x => .line (text x)) ++ stop :: as)
      (ys.map (fun y => .line (text' y)) ++ stop' :: bs))
    (hx : ∀ x ∈ xs, IsRow (text x) ∧ text x ≠ stop'.text) (hstop : IsRow stop.text)
    (hy : ∀ y ∈ ys, IsRow (text' y) ∧ text' y ≠ stop.text) (hstop' : IsRow stop'.text)
    {key : α → β} (hkey : ∀ x ∈ xs, ∀ y ∈ ys, text x = text' y → key x = key y) :
    xs.map key = ys.map key ∧ t.SameText (stop :: as) (stop' :: bs) := by
  induction xs generalizing ys with
  | nil =>
    cases ys with
    | nil => exact ⟨rfl, h⟩
    | cons y ys =>
      obtain ⟨hrow, hne⟩ := hy y List.mem_cons_self
      exact absurd (h.head hstop hrow).symm hne
  | cons x xs ih =>
    obtain ⟨hrow, hne⟩ := hx x List.mem_cons_self
    cases ys with
    | nil => exact absurd (h.head hrow hstop') hne
    | cons y ys =>
      obtain ⟨htext, hrest⟩ := h.line hrow (hy y List.mem_cons_self).1
      have hhead : key x = key y := hkey x List.mem_cons_self y List.mem_cons_self htext
      obtain ⟨htail, hlast⟩ := ih hrest (fun x hx' => hx x (List.mem_cons_of_mem _ hx'))
        (fun y hy' => hy y (List.mem_cons_of_mem _ hy'))
        fun x hx' y hy' => hkey x (List.mem_cons_of_mem _ hx') y (List.mem_cons_of_mem _ hy')
      rw [List.map_cons, List.map_cons, hhead, htail]
      exact ⟨rfl, hlast⟩

end Target.SameText

/-! ## The pieces of C# -/

namespace CSharp

variable {o : Options} {f f' : Family} {as bs : List Step}

theorem prelude_inj (hf : f.WellFormed) (hf' : f'.WellFormed)
    (h : (Target.csharp o).SameText (prelude o f ++ as) (prelude o f' ++ bs)) :
    f.name = f'.name ∧ (Target.csharp o).SameText as bs := by
  have hrow : ∀ {x : Family}, x.WellFormed → IsRow ("public abstract class " ++ x.name) := by
    intro x hx
    have hname := outsideNames_newline.notMem hx.name
    simp +decide [IsRow, hname]
  simp only [prelude, List.append_assoc, List.cons_append, List.nil_append] at h
  obtain ⟨hclass, hrest⟩ := ((h.of_append _).of_append [_, _, _]).line (hrow hf) (hrow hf')
  have hname : f.name = f'.name := by
    simpa [← String.toList_inj] using hclass
  exact ⟨hname, hrest.of_append [_]⟩

theorem methodDeclaration_congr (h : f.name = f'.name) (v : Variant) :
    methodDeclaration f v = methodDeclaration f' v := by
  unfold methodDeclaration parameterName
  rw [h]

theorem visitor_inj (hf : f.WellFormed) (hf' : f'.WellFormed) (hname : f.name = f'.name)
    (h : (Target.csharp o).SameText (visitor f ++ as) (visitor f' ++ bs)) :
    f.variantNames = f'.variantNames ∧ (Target.csharp o).SameText as bs := by
  have hmethods : ∀ {x : Family}, x.WellFormed → ∀ v ∈ x.variants,
      IsRow (methodDeclaration x v) ∧ methodDeclaration x v ≠ (Step.closing "\x7d").text := by
    intro x hx v hv
    refine ⟨isRow_methodDeclaration hx (hx.variants v hv), ?_⟩
    unfold methodDeclaration
    simp [← String.toList_inj]
  simp only [visitor, List.append_assoc, List.cons_append, List.nil_append] at h
  obtain ⟨hnames, hrest⟩ := (h.of_append [_, _]).lines (hmethods hf) isRow_closing (hmethods hf') isRow_closing
    fun v hv w hw heq => name_eq_of_methodDeclaration hf (hf.variants v hv) (hf'.variants w hw)
      (heq.trans (methodDeclaration_congr hname w).symm)
  exact ⟨hnames, hrest.of_append [_]⟩

theorem variant_congr (h : f.name = f'.name) : variant f = variant f' := by
  funext v
  rw [variant, variant, h]

/-- The line of a field is not that of the constructor. -/
theorem field_ne_constructor {v : Variant} (hv : isIdentifier v.name.toList = true)
    (declared parameters : String) :
    "public readonly " ++ declared ++ ";" ≠ "public " ++ v.name ++ "(" ++ parameters ++ ")" := by
  intro heq
  have hwords : "readonly".toList ++ ' ' :: (declared.toList ++ [';']) =
      v.name.toList ++ '(' :: (parameters.toList ++ [')']) := by
    simpa [← String.toList_inj] using heq
  have hstop := (identifier_append_inj (isIdentifierPart_of_mem (by decide))
    (isIdentifierPart_of_mem hv) (by decide) (by decide) hwords).2.1
  exact absurd hstop (by decide)

theorem areRows_fields {v : Variant} (h : AreRows (variant f v)) :
    (∀ g ∈ v.fields, IsRow ("public readonly " ++ parameter g ++ ";")) ∧
      IsRow ("public " ++ v.name ++ "(" ++ String.intercalate ", " (v.fields.map parameter) ++ ")") := by
  simp only [variant, areRows_append, areRows_cons, areRows_map_line, Step.text_line] at h
  exact ⟨h.1.1.1.2, h.1.1.2.1⟩

/-- A variant whose name is known is read back from its class. -/
theorem variant_inj (hf : f.WellFormed) {v w : Variant} (hv : v.WellFormed) (hw : w.WellFormed)
    (htypes : ∀ g ∈ v.fields, '\n' ∉ g.type.toList) (htypes' : ∀ g ∈ w.fields, '\n' ∉ g.type.toList)
    (hname : v.name = w.name)
    (h : (Target.csharp o).SameText (variant f v ++ as) (variant f w ++ bs)) :
    v = w ∧ (Target.csharp o).SameText as bs := by
  obtain ⟨hrows, hstop⟩ := areRows_fields (areRows_variant hf hv htypes)
  obtain ⟨hrows', hstop'⟩ := areRows_fields (areRows_variant hf hw htypes')
  have heq : v = w := by
    have hlines := h
    simp only [variant, List.append_assoc, List.cons_append, List.nil_append] at hlines
    rw [hname] at hlines
    have hfields : v.fields.map id = w.fields.map id :=
      ((hlines.of_append [_, _]).lines
        (fun g hg => ⟨hrows g hg, field_ne_constructor hw.name _ _⟩) (hname ▸ hstop)
        (fun g hg => ⟨hrows' g hg, field_ne_constructor hw.name _ _⟩) hstop'
        fun g hg k hk heq => parameter_inj (hv.fields g hg) (hw.fields k hk) (by
          simpa [← String.toList_inj] using heq)).1
    rw [List.map_id, List.map_id] at hfields
    exact Variant.ext hname hfields
  subst heq
  exact ⟨rfl, h.of_append _⟩

end CSharp

/-! ## The pieces of Rust -/

namespace Rust

variable {o : Options} {f f' : Family} {as bs : List Step}

theorem prelude_inj (hf : f.WellFormed) (hf' : f'.WellFormed)
    (h : (Target.rust o).SameText (prelude f ++ as) (prelude f' ++ bs)) :
    f.name = f'.name ∧ (Target.rust o).SameText as bs := by
  obtain ⟨hcomment, hrest⟩ := h.line (areRows_prelude hf _ List.mem_cons_self)
    (areRows_prelude hf' _ List.mem_cons_self)
  have hname : f.name = f'.name := by
    simpa [← String.toList_inj] using hcomment
  exact ⟨hname, hrest.of_append [_]⟩

theorem methodDeclaration_congr (h : f.name = f'.name) (v : Variant) :
    methodDeclaration f v = methodDeclaration f' v := by
  unfold methodDeclaration methodName parameterName
  rw [h]

theorem visitor_inj (hf : f.WellFormed) (hf' : f'.WellFormed) (hname : f.name = f'.name)
    (h : (Target.rust o).SameText (visitor f ++ as) (visitor f' ++ bs)) :
    f.variantNames = f'.variantNames ∧ (Target.rust o).SameText as bs := by
  have hmethods : ∀ {x : Family}, x.WellFormed → ∀ v ∈ x.variants,
      IsRow (methodDeclaration x v) ∧ methodDeclaration x v ≠ (Step.closing "\x7d").text := by
    intro x hx v hv
    refine ⟨isRow_methodDeclaration hx (hx.variants v hv), ?_⟩
    unfold methodDeclaration
    simp [← String.toList_inj]
  simp only [visitor, visitorName, List.append_assoc, List.cons_append, List.nil_append] at h
  rw [hname] at h
  obtain ⟨hnames, hrest⟩ := (h.of_append [_]).lines (hmethods hf) isRow_closing (hmethods hf') isRow_closing
    fun v hv w hw heq => name_eq_of_methodDeclaration hf (hf.variants v hv) (hf'.variants w hw)
      (heq.trans (methodDeclaration_congr hname w).symm)
  exact ⟨hnames, hrest.of_append [_, _]⟩

theorem acceptHead_congr (h : f.name = f'.name) : acceptHead f = acceptHead f' := by
  unfold acceptHead visitorName
  rw [h]

/-- The enum does not depend on the fields of the variants. -/
theorem base_congr (hname : f.name = f'.name) (hnames : f.variantNames = f'.variantNames) :
    base o f = base o f' := by
  have hlines : ∀ text : String → String, (f.variants.map fun v => Step.line (text v.name)) =
      f'.variants.map fun v => .line (text v.name) := by
    intro text
    have := congrArg (List.map fun n => Step.line (text n)) hnames
    simpa only [Family.variantNames, List.map_map, Function.comp_def] using this
  have hempty : f.variants.isEmpty = f'.variants.isEmpty := by
    have := congrArg List.isEmpty hnames
    simpa only [Family.variantNames, List.isEmpty_map] using this
  simp only [base, forwarding, hname, hempty, acceptHead_congr hname]
  rw [hlines fun n => n ++ "(" ++ n ++ "),",
    hlines fun n => f'.name ++ "::" ++ n ++ "(node) => node.accept(visitor),"]

theorem variant_congr (h : f.name = f'.name) : variant o f = variant o f' := by
  funext v
  have hmethod : methodName f v = methodName f' v := by
    unfold methodName
    rw [h]
  rw [variant, variant, h, hmethod, acceptHead_congr h]

/-- A variant whose name is known is read back from its struct. -/
theorem variant_inj {v w : Variant} (hv : v.WellFormed) (hw : w.WellFormed)
    (htypes : ∀ g ∈ v.fields, '\n' ∉ g.type.toList) (htypes' : ∀ g ∈ w.fields, '\n' ∉ g.type.toList)
    (hname : v.name = w.name)
    (h : (Target.rust o).SameText (variant o f v ++ as) (variant o f w ++ bs)) :
    v = w ∧ (Target.rust o).SameText as bs := by
  have hrow : ∀ {x : Variant}, x.WellFormed → (∀ g ∈ x.fields, '\n' ∉ g.type.toList) →
      ∀ g ∈ x.fields, IsRow ("pub " ++ declaration g ++ ",") ∧
        "pub " ++ declaration g ++ "," ≠ (Step.closing "\x7d").text := by
    intro x hx htypes g hg
    have hdeclaration := notMem_declaration outsideNames_newline (by decide) (by decide)
      (hx.fields g hg) (htypes g hg)
    constructor
    · simp +decide [IsRow, hdeclaration]
    · simp [← String.toList_inj]
  have heq : v = w := by
    have hlines := h
    simp only [variant, List.append_assoc, List.cons_append, List.nil_append] at hlines
    rw [hname] at hlines
    have hfields : v.fields.map id = w.fields.map id :=
      (((hlines.of_append _).of_append [_]).lines (hrow hv htypes) isRow_closing (hrow hw htypes')
        isRow_closing fun g hg k hk heq => declaration_inj (hv.fields g hg) (hw.fields k hk) (by
          simpa [← String.toList_inj] using heq)).1
    rw [List.map_id, List.map_id] at hfields
    exact Variant.ext hname hfields
  subst heq
  exact ⟨rfl, h.of_append _⟩

end Rust

/-! ## Whole families -/

namespace Target

variable {t : Target} {f f' : Family} {as bs : List Step}

theorem prelude_inj (hf : f.WellFormed) (hf' : f'.WellFormed)
    (h : t.SameText (t.prelude f ++ as) (t.prelude f' ++ bs)) :
    f.name = f'.name ∧ t.SameText as bs := by
  cases t with
  | csharp o => exact CSharp.prelude_inj hf hf' h
  | rust o => exact Rust.prelude_inj hf hf' h

theorem visitor_inj (hf : f.WellFormed) (hf' : f'.WellFormed) (hname : f.name = f'.name)
    (h : t.SameText (t.visitor f ++ as) (t.visitor f' ++ bs)) :
    f.variantNames = f'.variantNames ∧ t.SameText as bs := by
  cases t with
  | csharp o => exact CSharp.visitor_inj hf hf' hname h
  | rust o => exact Rust.visitor_inj hf hf' hname h

theorem base_congr (hname : f.name = f'.name) (hnames : f.variantNames = f'.variantNames) :
    t.base f = t.base f' := by
  cases t with
  | csharp o => rfl
  | rust o => exact Rust.base_congr hname hnames

theorem variant_congr (h : f.name = f'.name) : t.variant f = t.variant f' := by
  cases t with
  | csharp o => exact CSharp.variant_congr h
  | rust o => exact Rust.variant_congr h

theorem variant_inj (hf : f.WellFormed) {v w : Variant} (hv : v.WellFormed) (hw : w.WellFormed)
    (htypes : ∀ g ∈ v.fields, '\n' ∉ g.type.toList) (htypes' : ∀ g ∈ w.fields, '\n' ∉ g.type.toList)
    (hname : v.name = w.name) (h : t.SameText (t.variant f v ++ as) (t.variant f w ++ bs)) :
    v = w ∧ t.SameText as bs := by
  cases t with
  | csharp o => exact CSharp.variant_inj hf hv hw htypes htypes' hname h
  | rust o => exact Rust.variant_inj hv hw htypes htypes' hname h

/-- Variants whose names are known are read back, one after the other. -/
theorem variants_inj (hf : f.WellFormed) {vs ws : List Variant}
    (hvs : ∀ v ∈ vs, v.WellFormed ∧ ∀ g ∈ v.fields, '\n' ∉ g.type.toList)
    (hws : ∀ w ∈ ws, w.WellFormed ∧ ∀ g ∈ w.fields, '\n' ∉ g.type.toList)
    (hnames : vs.map (·.name) = ws.map (·.name))
    (h : t.SameText (vs.flatMap (t.variant f) ++ as) (ws.flatMap (t.variant f) ++ bs)) :
    vs = ws := by
  induction vs generalizing ws with
  | nil => exact (List.map_eq_nil_iff.mp hnames.symm).symm
  | cons v vs ih =>
    cases ws with
    | nil => exact absurd hnames (by simp)
    | cons w ws =>
      rw [List.map_cons, List.map_cons, List.cons.injEq] at hnames
      rw [List.forall_mem_cons] at hvs hws
      rw [List.flatMap_cons, List.flatMap_cons, List.append_assoc, List.append_assoc] at h
      obtain ⟨hhead, hrest⟩ := variant_inj hf hvs.1.1 hws.1.1 hvs.1.2 hws.1.2 hnames.1 h
      rw [hhead, ih hvs.2 hws.2 hnames.2 hrest]

/-- **A unit determines its family.** For a fixed target, two accepted families with types on single
    lines are equal if their source texts are. -/
theorem family_eq_of_source {name name' : String} {lines lines' : List String} {u u' : SourceUnit}
    (hgen : t.generate name lines = .ok u) (hgen' : t.generate name' lines' = .ok u')
    (hread : Family.read name lines = .ok f) (hread' : Family.read name' lines' = .ok f')
    (htypes : f.TypesAvoid '\n') (htypes' : f'.TypesAvoid '\n') (h : u.source = u'.source) :
    f = f' := by
  obtain ⟨rfl, hf⟩ := eq_unit_of_generate hgen hread
  obtain ⟨rfl, hf'⟩ := eq_unit_of_generate hgen' hread'
  have hsame : t.SameText (t.steps f) (t.steps f') :=
    ⟨0, by rw [← toList_source, ← toList_source, h]⟩
  simp only [steps, List.append_assoc] at hsame
  obtain ⟨hname, hvisitor⟩ := prelude_inj hf hf' hsame
  obtain ⟨hnames, hbase⟩ := visitor_inj hf hf' hname hvisitor
  -- the base and the templates of the variants are the same by now, with the options in them
  rw [base_congr hname hnames, variant_congr hname] at hbase
  have hvariants : f.variants = f'.variants :=
    variants_inj hf' (fun v hv => ⟨hf.variants v hv, htypes v hv⟩)
      (fun w hw => ⟨hf'.variants w hw, htypes' w hw⟩) hnames (hbase.of_append _)
  exact Family.ext hname hvariants

/-- Padding does not reach the source text, nor do types that look like declarations. -/
theorem family_eq_of_source_padded :
    ∃ u f f', (Target.rust ⟨["A\nB"]⟩).generate "Node" ["Pub : x: T type, &fn() fn"] = .ok u ∧
      (Target.rust ⟨["A\nB"]⟩).generate "Node" ["Pub:x: T\ttype ,  &fn() fn"] = .ok u ∧
      Family.read "Node" ["Pub : x: T type, &fn() fn"] = .ok f ∧
      Family.read "Node" ["Pub:x: T\ttype ,  &fn() fn"] = .ok f' ∧ f = f' := by
  have hread : Family.read "Node" ["Pub : x: T type, &fn() fn"] =
      .ok ⟨"Node", [⟨"Pub", [⟨"x: T", "type"⟩, ⟨"&fn()", "fn"⟩]⟩]⟩ := by cbv
  have hread' : Family.read "Node" ["Pub:x: T\ttype ,  &fn() fn"] =
      .ok ⟨"Node", [⟨"Pub", [⟨"x: T", "type"⟩, ⟨"&fn()", "fn"⟩]⟩]⟩ := by cbv
  have hgen := generate_eq_ok_iff.mpr ⟨_, hread, (by decide +kernel :
    (Target.rust ⟨["A\nB"]⟩).check _ = .ok ()), rfl⟩
  have hgen' := generate_eq_ok_iff.mpr ⟨_, hread', (by decide +kernel :
    (Target.rust ⟨["A\nB"]⟩).check _ = .ok ()), rfl⟩
  have htypes : Family.TypesAvoid '\n'
      ⟨"Node", [⟨"Pub", [⟨"x: T", "type"⟩, ⟨"&fn()", "fn"⟩]⟩]⟩ := by
    simp +decide [Family.TypesAvoid]
  exact ⟨_, _, _, hgen, hgen', hread, hread',
    family_eq_of_source hgen hgen' hread hread' htypes htypes rfl⟩

end Target

end VisitorGen
