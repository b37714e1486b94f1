import VisitorGen.Proofs.Target.Acceptance
import VisitorGen.Proofs.Target.DeclaredNames
import VisitorGen.Proofs.Target.Members

set_option autoImplicit false

/-! # The fields of a variant

The type of a variant names a field three times: where the field is declared, where the constructor
takes it for a parameter, and where the constructor stores it. In each of the three places stand the
names of the variant's fields, in order (`Target.fieldNamesIn_variant`), so each field is named once
exactly if no two of them have one name. Nothing looks for two such fields: the reader compares the
names of variants, and a target compares each field with names around the variant. So whatever fields
an accepted variant has, it may have any number of times (`Target.fields_once_iff`). -/

namespace VisitorGen

open Text

/-- The fields that the type of a variant names, place by place, without the marks of escaped
    names. -/
structure FieldNames where
  declared : List String
  parameters : List String
  stored : List String
  deriving DecidableEq, Repr

/-- In each place every field is named once. -/
def FieldNames.Once (names : FieldNames) : Prop :=
  names.declared.Nodup ∧ names.parameters.Nodup ∧ names.stored.Nodup

theorem FieldNames.once_iff (names : List String) :
    (⟨names, names, names⟩ : FieldNames).Once ↔ names.Nodup := by
  simp [Once]

/-! ## Fields of C# -/

namespace CSharp

/-- The fields among the members of a class. -/
def fieldsAmong (members : List Member) : List String :=
  (members.filter (·.kind == .field)).map (·.name)

/-- The name of a parameter, which stands behind its type, before the next comma. There is none if the
    list of the parameters is empty. -/
def parameterIn (part : List Char) : Option String :=
  (some (unescape (lastWord (part ++ [','])))).filter (· ≠ "")

/-- The parameters of a constructor, the only member with a single word before its name. -/
def parametersAfter (words : List String) (rest : List Char) : List String :=
  if words.dropLast = ["public"] then (splitAtCommas (rest.drop 1).dropLast).filterMap parameterIn
  else []

/-- The member of `this` that a row assigns to. -/
def storedAfter (words : List String) (rest : List Char) : List String :=
  if words = ["this"] then ((readWords (rest.drop 1)).1.take 1).map unescape else []

/-- The fields that the rows of a class name. -/
def fieldNamesIn (steps : List Step) : FieldNames where
  declared := fieldsAmong (membersIn steps)
  parameters := readRows parametersAfter steps
  stored := readRows storedAfter steps

theorem fieldsAmong_classMembers (v : Variant) : fieldsAmong (classMembers v) = v.fieldNames := by
  simp [fieldsAmong, classMembers, Variant.fieldNames, List.filter_map, Function.comp_def]

/-! ### Parameters -/

theorem parameters_of_words {row : String} {words : List String} {rest : List Char}
    (h : readWords row.toList = (words, rest)) (hne : words.dropLast ≠ ["public"]) :
    readRow parametersAfter row = [] := by
  rw [readRow_eq h, parametersAfter, if_neg hne]

theorem parameterIn_space (part : List Char) : parameterIn (' ' :: part) = parameterIn part := by
  have hspace : ∀ cs : List Char, (cs ++ [' ']).takeWhile isNameChar = cs.takeWhile isNameChar := by
    intro cs
    induction cs with
    | nil => decide
    | cons c cs ih => rw [List.cons_append, List.takeWhile_cons, List.takeWhile_cons, ih]
  have hreverse : (' ' :: part ++ [',']).reverse.drop 1 = part.reverse ++ [' '] := by simp
  have hreverse' : (part ++ [',']).reverse.drop 1 = part.reverse := by simp
  rw [parameterIn, parameterIn, lastWord, lastWord, hreverse, hreverse', hspace]

theorem parameterIn_parameter {g : Field} (hg : g.WellFormed) :
    parameterIn (parameter g).toList = some g.name := by
  have hpart : (parameter g).toList ++ [','] =
      g.type.toList ++ ' ' :: ((escape g.name).toList ++ [',']) := by
    unfold parameter
    simp
  rw [parameterIn, hpart, lastWord_append (isWord_escape (isIdentifierPart_of_mem hg.name)),
    unescape_escape hg.name, Option.filter_some,
    if_pos (by simpa using ne_empty_of_isIdentifier hg.name)]

/-- The parameters of a constructor are the fields of its variant. -/
theorem parameters_constructor {v : Variant} (hv : v.WellFormed) :
    readRow parametersAfter ("public " ++ v.name ++ "(" ++
      String.intercalate ", " (v.fields.map parameter) ++ ")") = v.fieldNames := by
  have hname : ∀ g ∈ v.fields, ∀ c ∈ ' ' :: (escape g.name).toList, Neutral c := by
    intro g hg
    rw [List.forall_mem_cons]
    exact ⟨by simp [Neutral, scanMarks],
      neutral_of_mem_word (isWord_escape (isIdentifierPart_of_mem (hv.fields g hg).name))⟩
  have htext : ∀ g : Field, (parameter g).toList = g.type.toList ++ ' ' :: (escape g.name).toList := by
    intro g
    unfold parameter
    simp
  rw [readRow_eq (words_constructor (isWord_of_isIdentifier hv.name) _), parametersAfter,
    if_pos (by rfl), List.drop_one, List.tail_cons, List.dropLast_concat]
  by_cases hne : v.fields = []
  · rw [Variant.fieldNames, hne]
    decide
  · -- the parenthesis is gone, so nothing stands behind the last parameter
    rw [← List.append_nil (String.toList _)]
    refine filterMap_splitAtCommas parameterIn_space (by simp) hne (fun g hg => ?_) (fun g hg => ?_)
      fun g hg rest hrest => ?_
    · rw [htext, hasTopComma_append, (hv.fields g hg).no_topComma, hasTopComma_neutral _ (hname g hg)]
      rfl
    · rw [htext, Scan.read_append,
        Scan.depth_read_neutral _ (hname g (List.mem_of_mem_dropLast hg))]
      exact hv.closed g hg
    · obtain rfl : rest = [] := by simpa using hrest
      rw [List.append_nil]
      exact parameterIn_parameter (hv.fields g hg)

/-! ### Assignments -/

theorem stored_of_words {row : String} {words : List String} {rest : List Char}
    (h : readWords row.toList = (words, rest)) (hne : words ≠ ["this"]) :
    readRow storedAfter row = [] := by
  rw [readRow_eq h, storedAfter, if_neg hne]

theorem stored_assignment {g : Field} (hg : g.WellFormed) :
    readRow storedAfter ("this." ++ escape g.name ++ " = " ++ escape g.name ++ ";") = [g.name] := by
  have hword := isWord_escape (isIdentifierPart_of_mem hg.name)
  rw [readRow_eq (words_assignment g), storedAfter, if_pos rfl, List.drop_one, List.tail_cons,
    readWords_cons hword, List.take_succ_cons, List.take_zero, List.map_singleton,
    unescape_escape hg.name]

/-! ### The class of a variant -/

theorem parameters_mark : readRow parametersAfter "" = [] ∧ readRow parametersAfter "\x7b" = [] ∧
    readRow parametersAfter "\x7d" = [] := by
  decide

theorem stored_mark : readRow storedAfter "" = [] ∧ readRow storedAfter "\x7b" = [] ∧
    readRow storedAfter "\x7d" = [] := by
  decide

section

variable {f : Family} {v : Variant}

theorem parameters_variant (hv : v.WellFormed) :
    readRows parametersAfter (variant f v) = v.fieldNames := by
  have hreadonly : ∀ g : Field,
      ("public" :: "readonly" :: (readWords (parameter g ++ ";").toList).1).dropLast ≠ ["public"] := by
    intro g
    rw [List.dropLast_cons_of_ne_nil (by simp), List.dropLast_cons_of_ne_nil (readWords_ne_nil _)]
    simp
  have hfields := readRows_map_line_nil parametersAfter fun g (_ : g ∈ v.fields) =>
    parameters_of_words (words_field g) (hreadonly g)
  have hassignments := readRows_map_line_nil parametersAfter fun g (_ : g ∈ v.fields) =>
    parameters_of_words (words_assignment g) (by decide)
  have haccept : readRow parametersAfter ("public override R " ++ acceptName ++ "<R>(" ++
      visitorName ++ "<R> visitor)") = [] := by decide
  simp only [variant, readRows_append, readRows_cons, readRows_nil, Step.text_line,
    Step.text_opening, Step.text_closing, Step.text_blank, parameters_mark, hfields, hassignments,
    parameters_of_words (words_class (isWord_of_isIdentifier hv.name) f.name) (by simp),
    parameters_constructor hv, haccept,
    parameters_of_words (words_return (dispatchName f.name v.name)) (by simp)]
  simp

theorem stored_variant (hv : v.WellFormed) : readRows storedAfter (variant f v) = v.fieldNames := by
  have hname := isWord_of_isIdentifier hv.name
  have hfields := readRows_map_line_nil storedAfter fun g (_ : g ∈ v.fields) =>
    stored_of_words (words_field g) (by simp)
  have hassignments := readRows_map_line_one storedAfter fun g hg =>
    stored_assignment (hv.fields g hg)
  have haccept : readRow storedAfter ("public override R " ++ acceptName ++ "<R>(" ++
      visitorName ++ "<R> visitor)") = [] := by decide
  simp only [variant, readRows_append, readRows_cons, readRows_nil, Step.text_line,
    Step.text_opening, Step.text_closing, Step.text_blank, stored_mark, hfields, hassignments,
    stored_of_words (words_class hname f.name) (by simp),
    stored_of_words (words_constructor hname _) (by simp), haccept,
    stored_of_words (words_return (dispatchName f.name v.name)) (by simp)]
  simp [Variant.fieldNames]

/-- The class of a variant names the fields of the variant, in each place. -/
theorem fieldNamesIn_variant (hf : f.WellFormed) (hv : v ∈ f.variants) :
    fieldNamesIn (variant f v) = ⟨v.fieldNames, v.fieldNames, v.fieldNames⟩ := by
  have hvf := hf.variants v hv
  rw [fieldNamesIn, membersIn_variant hf hv, fieldsAmong_classMembers, parameters_variant hvf,
    stored_variant hvf]

end

end CSharp

/-! ## Fields of Rust -/

namespace Rust

/-- The name that a raw name stands for. -/
def unescape (name : String) : String :=
  match name.toList with
  | 'r' :: '#' :: cs => String.ofList cs
  | _ => name

/-- The fields among the names that a struct declares. -/
def fieldsAmong (names : List DeclaredName) : List String :=
  (names.filter (·.kind == .field)).map fun d => unescape d.name

/-- The parameters of the constructor among the names that a struct declares with its functions. -/
def parametersAmong (names : List DeclaredName) : List String :=
  (((names.dropWhile (· != ⟨.function, "new"⟩)).drop 1).takeWhile (·.kind == .parameter)).map
    fun d => unescape d.name

/-- The name of a field that is stored from the parameter of its name. -/
def shorthandIn (part : List Char) : Option String :=
  ((readWords part).1.find? (· ≠ "")).map unescape

/-- The fields that a row stores in a new struct. -/
def storedAfter (words : List String) (rest : List Char) : List String :=
  if words = ["Self", ""] then (splitAtCommas (rest.drop 1)).filterMap shorthandIn else []

/-- The fields that the rows of a struct and of its functions name. -/
def fieldNamesIn (steps : List Step) : FieldNames where
  declared := fieldsAmong (declaredNames steps)
  parameters := parametersAmong (declaredNames steps)
  stored := readRows storedAfter steps

theorem unescape_escape {name : String} (h : isIdentifier name.toList = true) :
    unescape (escape name) = name := by
  rw [escape]
  split
  · rw [unescape, String.toList_append]
    exact String.ofList_toList
  · rw [unescape]
    split
    · next cs hraw =>
      exact absurd (isIdentifierPart_of_mem h '#' (by simp [hraw])) (by decide)
    · rfl

theorem escape_ne_empty {name : String} (h : isIdentifier name.toList = true) : escape name ≠ "" := by
  intro hempty
  have hname := unescape_escape h
  rw [hempty] at hname
  exact ne_empty_of_isIdentifier h hname.symm

theorem map_unescape_escape {v : Variant} (hv : v.WellFormed) :
    (v.fields.map fun g => unescape (escape g.name)) = v.fieldNames :=
  List.map_congr_left fun g hg => unescape_escape (hv.fields g hg).name

/-! ### Declarations and parameters -/

theorem fieldsAmong_structNames {v : Variant} (hv : v.WellFormed) :
    fieldsAmong (structNames v) = v.fieldNames := by
  rw [← map_unescape_escape hv]
  simp [fieldsAmong, structNames, List.filter_map, Function.comp_def]

theorem parametersAmong_structNames {v : Variant} (hv : v.WellFormed) :
    parametersAmong (structNames v) = v.fieldNames := by
  have hfront : ∀ d ∈ (⟨.type, v.name⟩ :: v.fields.map fun g => ⟨.field, escape g.name⟩ :
      List DeclaredName), (d != ⟨.function, "new"⟩) = true := by simp
  have hparameter : ∀ d ∈ (v.fields.map fun g => ⟨.parameter, escape g.name⟩ :
      List DeclaredName), (d.kind == .parameter) = true := by simp
  -- the functions behind the constructor have parameters of their own, behind their names
  rw [parametersAmong, structNames, List.append_assoc, List.dropWhile_append_of_pos hfront,
    List.cons_append, List.dropWhile_cons_of_neg (by simp), List.drop_one, List.tail_cons,
    List.takeWhile_append_of_pos hparameter, List.takeWhile_cons_of_neg (by decide), List.append_nil,
    List.map_map, ← map_unescape_escape hv]
  rfl

/-! ### Fields of a new struct -/

theorem stored_of_words {row : String} {words : List String} {rest : List Char}
    (h : readWords row.toList = (words, rest)) (hne : words ≠ ["Self", ""]) :
    readRow storedAfter row = [] := by
  rw [readRow_eq h, storedAfter, if_neg hne]

theorem shorthandIn_space (part : List Char) : shorthandIn (' ' :: part) = shorthandIn part := by
  have hpart : ' ' :: part = "".toList ++ ' ' :: part := by simp
  rw [shorthandIn, shorthandIn, hpart, readWords_cons (by decide), List.find?_cons_of_neg (by simp)]

theorem shorthandIn_escape {g : Field} (hg : g.WellFormed) (rest : List Char)
    (hrest : rest ∈ [[], " \x7d".toList]) :
    shorthandIn ((escape g.name).toList ++ rest) = some g.name := by
  have hword := isWord_escape (isIdentifierPart_of_mem hg.name)
  have hfirst : ∃ words, (readWords ((escape g.name).toList ++ rest)).1 = escape g.name :: words := by
    rw [List.mem_pair] at hrest
    rcases hrest with rfl | rfl
    · rw [List.append_nil, readWords_word hword]
      exact ⟨[], rfl⟩
    · exact exists_readWords hword (by decide) _
  obtain ⟨words, hwords⟩ := hfirst
  rw [shorthandIn, hwords, List.find?_cons_of_pos (by simpa using escape_ne_empty hg.name),
    Option.map_some, unescape_escape hg.name]

/-- A constructor stores the fields of its variant. -/
theorem stored_construction {v : Variant} (hv : v.WellFormed) :
    readRow storedAfter (construction v) = v.fieldNames := by
  have hname : ∀ g ∈ v.fields, ∀ c ∈ (escape g.name).toList, Neutral c := fun g hg =>
    neutral_of_mem_word (isWord_escape (isIdentifierPart_of_mem (hv.fields g hg).name))
  rw [construction]
  split
  · next hempty =>
    rw [Variant.fieldNames, List.isEmpty_iff.mp hempty]
    decide
  · next hne =>
    have hrow : ("Self \x7b " ++ String.intercalate ", " (v.fields.map fun g => escape g.name) ++
        " \x7d").toList = "Self".toList ++ ' ' :: ("".toList ++ '\x7b' :: ' ' ::
          ((String.intercalate ", " (v.fields.map fun g => escape g.name)).toList ++
            " \x7d".toList)) := by simp
    rw [readRow, hrow, readWords_cons (by decide), readWords_last (by decide) (by decide), storedAfter,
      if_pos rfl, List.drop_one, List.tail_cons, filterMap_splitAtCommas_space shorthandIn_space]
    refine filterMap_splitAtCommas shorthandIn_space (by decide) (by simpa using hne)
      (fun g hg => hasTopComma_neutral _ (hname g hg)) (fun g hg => ?_)
      fun g hg => shorthandIn_escape (hv.fields g hg)
    rw [Scan.start_read_neutral (hname g (List.mem_of_mem_dropLast hg))]
    rfl

/-! ### The struct of a variant -/

theorem stored_mark : readRow storedAfter "" = [] ∧ readRow storedAfter "\x7d" = [] ∧
    readRow storedAfter "#[allow(clippy::too_many_arguments)]" = [] := by
  decide

theorem stored_deriveLine (o : Options) : readRows storedAfter (deriveLine o) = [] := by
  rw [deriveLine]
  split
  · rfl
  · simp [stored_of_words (words_derive _) (by simp)]

theorem stored_variant (o : Options) {f : Family} (hf : f.WellFormed) {v : Variant}
    (hv : v ∈ f.variants) : readRows storedAfter (variant o f v) = v.fieldNames := by
  have hvf := hf.variants v hv
  have hname := isWord_of_isIdentifier hvf.name
  have hfields := readRows_map_line_nil storedAfter fun g hg =>
    stored_of_words (words_field (hvf.fields g hg)) (by simp)
  have hpath : readRow storedAfter (f.name ++ "::" ++ v.name ++ "(node)") = [] := by
    rw [String.append_assoc]
    exact stored_of_words (words_path (isWord_of_isIdentifier hf.name) _) (by simp)
  simp only [variant, readRows_append, readRows_cons, readRows_nil, Step.text_line,
    Step.text_opening, Step.text_closing, Step.text_blank, stored_mark, stored_deriveLine, hfields,
    stored_of_words (words_struct hname) (by simp), stored_of_words (words_impl hname) (by simp),
    stored_of_words (words_new _) (by simp), stored_construction hvf,
    stored_of_words (words_acceptHead f) (by simp),
    stored_of_words (words_call (methodName f v)) (by simp),
    stored_of_words (words_conversion v.name f.name) (by simp),
    stored_of_words (words_from v.name) (by simp), hpath]
  simp

/-- The struct of a variant names the fields of the variant, in each place. -/
theorem fieldNamesIn_variant (o : Options) {f : Family} (hf : f.WellFormed) {v : Variant}
    (hv : v ∈ f.variants) :
    fieldNamesIn (variant o f v) = ⟨v.fieldNames, v.fieldNames, v.fieldNames⟩ := by
  have hvf := hf.variants v hv
  rw [fieldNamesIn, declaredNames_variant hf o hv, fieldsAmong_structNames hvf,
    parametersAmong_structNames hvf, stored_variant o hf hv]

end Rust

/-! ## Fields that are named twice -/

namespace Target

/-- The fields that the type of a variant names. -/
def fieldNamesIn : Target → List Step → FieldNames
  | .csharp _, steps => CSharp.fieldNamesIn steps
  | .rust _, steps => Rust.fieldNamesIn steps

theorem fieldNamesIn_variant (t : Target) {f : Family} (hf : f.WellFormed) {v : Variant}
    (hv : v ∈ f.variants) :
    t.fieldNamesIn (t.variant f v) = ⟨v.fieldNames, v.fieldNames, v.fieldNames⟩ := by
  cases t with
  | csharp _ => exact CSharp.fieldNamesIn_variant hf hv
  | rust o => exact Rust.fieldNamesIn_variant o hf hv

/-- Each field of a variant is checked on its own. -/
theorem checkVariant_of_subset {t : Target} {family : String} {v : Variant}
    (h : t.checkVariant family v = .ok ()) {fs : List Field} (hfs : ∀ g ∈ fs, g ∈ v.fields) :
    t.checkVariant family ⟨v.name, fs⟩ = .ok () := by
  cases t with
  | csharp o =>
    rw [checkVariant, CSharp.checkVariant] at h ⊢
    split at h
    · exact absurd h (by simp)
    · next hkeyword =>
      split at h
      · exact absurd h (by simp)
      · next hmember =>
        rw [if_neg hkeyword, if_neg hmember]
        rw [CSharp.checkFields_eq_ok_iff] at h ⊢
        intro g hg
        exact h g (hfs g hg)
  | rust o =>
    rw [checkVariant, Rust.checkVariant] at h ⊢
    split at h
    · exact absurd h (by simp)
    · next hkeyword =>
      split at h
      · exact absurd h (by simp)
      · next hvisitor =>
        split at h
        · exact absurd h (by simp)
        · next hfields =>
          have hnone : fs.find? (fun g => Rust.isPathKeyword g.name) = none := by
            rw [List.find?_eq_none] at hfields ⊢
            intro g hg
            exact hfields g (hfs g hg)
          simp only [if_neg hkeyword, if_neg hvisitor, hnone]

/-- A variant of an accepted family may have its fields in any number. -/
theorem accepts_of_subset {t : Target} {family : String} {v : Variant} (hname : t.AdmitsName family)
    (hv : v.WellFormed) (hne : v.name ≠ family) (h : t.checkVariant family v = .ok ())
    {fs : List Field} (hfs : ∀ g ∈ fs, g ∈ v.fields ∧ g.Closed) :
    t.accepts ⟨family, [(⟨v.name, fs⟩ : Variant).text]⟩ = true := by
  have hwf : (⟨v.name, fs⟩ : Variant).WellFormed :=
    ⟨hv.name, fun g hg => hv.fields g (hfs g hg).1, fun g hg =>
      (hfs g (List.mem_of_mem_dropLast hg)).2⟩
  exact accepts_singleton_iff.mpr ⟨hname, ⟨v.name, fs⟩, Variant.read_text hwf, hne,
    checkVariant_of_subset h fun g hg => (hfs g hg).1⟩

/-- **The fields of a variant are named once exactly if their names differ.** Where the type of a
    variant declares its fields, where the constructor takes them and where it stores them, it names
    the fields of the variant, in order. So each is named once in each place if and only if no two
    have one name. No check sees to that: whatever fields an accepted variant has, those with closed
    brackets may be declared in any order and any number of times. -/
theorem fields_once_iff {t : Target} {name : String} {lines : List String} {u : SourceUnit}
    (h : t.generate name lines = .ok u) :
    ∃ f, Family.read name lines = .ok f ∧ u = t.unit f ∧ ∀ v ∈ f.variants,
      t.fieldNamesIn (t.variant f v) = ⟨v.fieldNames, v.fieldNames, v.fieldNames⟩ ∧
      ((t.fieldNamesIn (t.variant f v)).Once ↔ v.fieldNames.Nodup) ∧
      ∀ fs : List Field, (∀ g ∈ fs, g ∈ v.fields ∧ g.Closed) →
        t.accepts ⟨name, [(⟨v.name, fs⟩ : Variant).text]⟩ = true := by
  obtain ⟨f, hread, hcheck, rfl⟩ := generate_eq_ok_iff.mp h
  obtain ⟨rfl, hf⟩ := Family.wellFormed_of_read hread
  obtain ⟨hname, hvariants⟩ := check_eq_ok_iff.mp hcheck
  refine ⟨f, hread, rfl, fun v hv => ⟨fieldNamesIn_variant t hf hv, ?_, fun fs hfs => ?_⟩⟩
  · rw [fieldNamesIn_variant t hf hv]
    exact FieldNames.once_iff v.fieldNames
  · have hne : v.name ≠ f.name := fun heq =>
      hf.name_notMem (heq ▸ List.mem_map.mpr ⟨v, hv, rfl⟩)
    exact accepts_of_subset ⟨hf.name, hname⟩ (hf.variants v hv) hne (hvariants v hv) hfs

/-- Names of fields that differ in case are different names, also where one of them is escaped. -/
theorem fields_once_type :
    let t := Target.rust ⟨Rust.defaultDerives⟩
    let v : Variant := ⟨"Call", [⟨"fn(A, B) -> C", "type"⟩, ⟨"T", "Type"⟩]⟩
    ∃ u, t.generate "Expr" ["Call : fn(A, B) -> C type, T Type"] = .ok u ∧
      t.fieldNamesIn (t.variant ⟨"Expr", [v]⟩ v) =
        ⟨["type", "Type"], ["type", "Type"], ["type", "Type"]⟩ ∧
      (t.fieldNamesIn (t.variant ⟨"Expr", [v]⟩ v)).Once := by
  intro t v
  have hread : Family.read "Expr" ["Call : fn(A, B) -> C type, T Type"] = .ok ⟨"Expr", [v]⟩ := by cbv
  have hgen := generate_eq_ok_iff.mpr ⟨_, hread, (by decide : t.check _ = .ok ()), rfl⟩
  obtain ⟨f, hread', -, hfields⟩ := fields_once_iff hgen
  obtain rfl := Except.ok.inj (hread.symm.trans hread')
  obtain ⟨hnames, honce, -⟩ := hfields v List.mem_cons_self
  exact ⟨_, hgen, hnames, honce.mpr (by decide)⟩

/-- A variant with two fields of one name is accepted, and its type names both of them by this
    name. -/
theorem field_declared_twice :
    ∃ f, Family.read "Expr" ["A : T x, T x"] = .ok f ∧
      ∀ t ∈ [Target.csharp ⟨CSharp.defaultSpace⟩, Target.rust ⟨Rust.defaultDerives⟩],
        t.generate "Expr" ["A : T x, T x"] = .ok (t.unit f) ∧
        ∀ v ∈ f.variants, t.fieldNamesIn (t.variant f v) = ⟨["x", "x"], ["x", "x"], ["x", "x"]⟩ ∧
          ¬ v.fieldNames.Nodup := by
  have hread : Family.read "Expr" ["A : T x, T x"] =
      .ok ⟨"Expr", [⟨"A", [⟨"T", "x"⟩, ⟨"T", "x"⟩]⟩]⟩ := by cbv
  obtain ⟨-, hf⟩ := Family.wellFormed_of_read hread
  refine ⟨_, hread, fun t ht => ⟨?_, fun v hv => ⟨?_, ?_⟩⟩⟩
  · have hcheck : ∀ t ∈ [Target.csharp ⟨CSharp.defaultSpace⟩, Target.rust ⟨Rust.defaultDerives⟩],
        t.check ⟨"Expr", [⟨"A", [⟨"T", "x"⟩, ⟨"T", "x"⟩]⟩]⟩ = .ok () := by decide
    exact generate_eq_ok_iff.mpr ⟨_, hread, hcheck t ht, rfl⟩
  · rw [fieldNamesIn_variant t hf hv]
    obtain rfl := List.mem_singleton.mp hv
    rfl
  · obtain rfl := List.mem_singleton.mp hv
    decide

end Target

end VisitorGen
