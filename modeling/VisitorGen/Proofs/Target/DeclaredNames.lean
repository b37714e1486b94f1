import VisitorGen.Proofs.Target.RowWords

set_option autoImplicit false

/-! # The names that a Rust unit declares

Rows are read as a reader of the language would: from their first words one can tell what they
declare, a type, a function with its parameters, a field or a variant of an enum (`Rust.declaredIn`).
The types of fields and parameters stand behind the names and are not looked at, but for the commas
between two parameters. Read in this way, a unit declares the names of its visitor, of its enum and
of its structs, and no others (`Rust.declaredNames_steps`). -/

namespace VisitorGen.Rust

open Text

/-! ## Reading declarations -/

/-- What a name stands for. -/
inductive NameKind where
  | type
  | variant
  | function
  | field
  | parameter
  deriving DecidableEq, Repr

/-- A name as it is declared. -/
structure DeclaredName where
  kind : NameKind
  name : String
  deriving DecidableEq, Repr

/-- The name of a parameter, if there is a colon behind it. -/
def parameterIn (part : List Char) : Option String :=
  match readWords (trimStart part) with
  | ([name], ':' :: _) => some name
  | _ => none

/-- The names of the parameters in a list that follows a parenthesis. What stands behind the list
    is taken for a part of the last type. -/
def parametersIn (list : List Char) : List String :=
  (splitAtCommas list).filterMap parameterIn

/-- A function and its parameters, where `rest` stands behind the function's name. -/
def functionNames (name : String) (rest : List Char) : List DeclaredName :=
  ⟨.function, name⟩ ::
    (parametersIn ((rest.dropWhile (· != '(')).drop 1)).map fun p => ⟨.parameter, p⟩

/-- What a row declares by its first words and by what stands behind them. -/
def namesAfter : List String → List Char → List DeclaredName
  | ["pub", "trait", name], _ => [⟨.type, name⟩]
  -- the word behind the last space is empty where a bracket follows
  | ["pub", "enum", name, ""], _ => [⟨.type, name⟩]
  | ["pub", "struct", name, ""], _ => [⟨.type, name⟩]
  | ["pub", "fn", name], rest => functionNames name rest
  | ["fn", name], rest => functionNames name rest
  | ["pub", name], ':' :: _ => [⟨.field, name⟩]
  | [name], '(' :: _ => [⟨.variant, name⟩]
  | _, _ => []

theorem namesAfter_trait (name : String) (rest : List Char) :
    namesAfter ["pub", "trait", name] rest = [⟨.type, name⟩] := rfl

theorem namesAfter_enum (name : String) (rest : List Char) :
    namesAfter ["pub", "enum", name, ""] rest = [⟨.type, name⟩] := rfl

theorem namesAfter_struct (name : String) (rest : List Char) :
    namesAfter ["pub", "struct", name, ""] rest = [⟨.type, name⟩] := rfl

theorem namesAfter_pub_fn (name : String) (rest : List Char) :
    namesAfter ["pub", "fn", name] rest = functionNames name rest := rfl

theorem namesAfter_fn (name : String) (rest : List Char) :
    namesAfter ["fn", name] rest = functionNames name rest := rfl

theorem namesAfter_field (name : String) (rest : List Char) :
    namesAfter ["pub", name] (':' :: rest) = [⟨.field, name⟩] := by
  simp [namesAfter]

theorem namesAfter_variant (name : String) (rest : List Char) :
    namesAfter [name] ('(' :: rest) = [⟨.variant, name⟩] := by
  simp [namesAfter]

theorem namesAfter_word (word : String) {c : Char} (hparen : c ≠ '(') (rest : List Char) :
    namesAfter [word] (c :: rest) = [] := by
  simp [namesAfter, hparen]

/-- Declarations of more than one word start with `pub` or `fn`. -/
theorem namesAfter_of_ne {word : String} (hpub : word ≠ "pub") (hfn : word ≠ "fn")
    {words : List String} (hwords : words ≠ []) (rest : List Char) :
    namesAfter (word :: words) rest = [] := by
  rw [namesAfter.eq_def]
  split <;> simp_all

/-- The names that a row declares. -/
def declaredIn (row : String) : List DeclaredName :=
  namesAfter (readWords row.toList).1 (readWords row.toList).2

/-- The names that the rows of a unit declare, in order. -/
def declaredNames (steps : List Step) : List DeclaredName :=
  steps.flatMap fun step => declaredIn step.text

@[simp] theorem declaredNames_nil : declaredNames [] = [] := rfl

@[simp] theorem declaredNames_cons (step : Step) (steps : List Step) :
    declaredNames (step :: steps) = declaredIn step.text ++ declaredNames steps := rfl

@[simp] theorem declaredNames_append (as bs : List Step) :
    declaredNames (as ++ bs) = declaredNames as ++ declaredNames bs :=
  readRows_append namesAfter as bs

@[simp] theorem declaredNames_flatMap {α : Type} (piece : α → List Step) (xs : List α) :
    declaredNames (xs.flatMap piece) = xs.flatMap fun x => declaredNames (piece x) :=
  readRows_flatMap namesAfter piece xs

theorem declaredNames_map_line {α : Type} {text : α → String} {xs : List α}
    {names : α → List DeclaredName} (h : ∀ x ∈ xs, declaredIn (text x) = names x) :
    declaredNames (xs.map fun x => .line (text x)) = xs.flatMap names :=
  readRows_map_line namesAfter h

theorem declaredNames_map_line_one {α : Type} {text : α → String} {xs : List α}
    {name : α → DeclaredName} (h : ∀ x ∈ xs, declaredIn (text x) = [name x]) :
    declaredNames (xs.map fun x => .line (text x)) = xs.map name :=
  readRows_map_line_one namesAfter h

/-! ## Types, variants and fields -/

@[simp] theorem declaredIn_blank : declaredIn "" = [] := rfl

@[simp] theorem declaredIn_closing : declaredIn "\x7d" = [] := rfl

theorem declaredIn_trait {name : String} (h : isWord name = true) :
    declaredIn ("pub trait " ++ name ++ "<R> \x7b") = [⟨.type, name⟩] := by
  rw [declaredIn, words_trait h, namesAfter_trait]

theorem declaredIn_enum {name : String} (h : isWord name = true) :
    declaredIn ("pub enum " ++ name ++ " \x7b") = [⟨.type, name⟩] := by
  rw [declaredIn, words_enum h, namesAfter_enum]

theorem declaredIn_struct {name : String} (h : isWord name = true) :
    declaredIn ("pub struct " ++ name ++ " \x7b") = [⟨.type, name⟩] := by
  rw [declaredIn, words_struct h, namesAfter_struct]

theorem declaredIn_variant {name : String} (h : isWord name = true) :
    declaredIn (name ++ "(" ++ name ++ "),") = [⟨.variant, name⟩] := by
  rw [declaredIn, words_variant h, namesAfter_variant]

theorem declaredIn_field {g : Field} (hg : g.WellFormed) :
    declaredIn ("pub " ++ declaration g ++ ",") = [⟨.field, escape g.name⟩] := by
  rw [declaredIn, words_field hg, namesAfter_field]

/-- The methods of a type stand in a block that declares nothing itself. -/
theorem declaredIn_impl {name : String} (h : isWord name = true) :
    declaredIn ("impl " ++ name ++ " \x7b") = [] := by
  rw [declaredIn, words_impl h, namesAfter_of_ne (by decide) (by decide) (by simp)]

theorem declaredIn_path {name : String} (h : isWord name = true) (rest : String) :
    declaredIn (name ++ "::" ++ rest) = [] := by
  rw [declaredIn, words_path h, namesAfter_word name (by decide)]

/-! ## Parameters -/

theorem parameterIn_space (part : List Char) : parameterIn (' ' :: part) = parameterIn part := by
  have hblank : trimStart (' ' :: part) = trimStart part := trimStart_append allBlank_space part
  rw [parameterIn, parameterIn, hblank]

/-- A space before the parameters changes nothing. -/
theorem parametersIn_space (list : List Char) : parametersIn (' ' :: list) = parametersIn list :=
  filterMap_splitAtCommas_space parameterIn_space list

section

variable {name : String} (hname : isWord name = true) {type : List Char}
  (hcomma : hasTopComma .start type = false)

include hname

/-- A parameter is read up to its colon. -/
theorem parameterIn_of_name (type : List Char) :
    parameterIn (name.toList ++ ':' :: type) = some name := by
  have hsolid : trimStart (name.toList ++ ':' :: type) = name.toList ++ ':' :: type :=
    trimStart_eq_self (startsSolid_iff.mp (startsSolid_word hname (by decide) type))
  have hcolon : isWordOrSpace ':' = false := by decide
  simp only [parameterIn, hsolid, readWords_last hname hcolon]

/-- The name of a parameter and its colon mean nothing to the scan. -/
theorem neutral_of_mem_name : ∀ c ∈ name.toList ++ [':'], Neutral c := by
  simp only [List.forall_mem_append]
  exact ⟨neutral_of_mem_word hname, by simp [Neutral, scanMarks]⟩

include hcomma

theorem no_topComma_parameter : hasTopComma .start (name.toList ++ ':' :: type) = false := by
  have hneutral := neutral_of_mem_name hname
  rw [List.append_cons, hasTopComma_append, hasTopComma_neutral _ hneutral,
    Scan.start_read_neutral hneutral, hcomma]
  rfl

/-- The last parameter stands before the end of the list. -/
theorem parametersIn_last : parametersIn (name.toList ++ ':' :: type) = [name] := by
  rw [parametersIn, splitAtCommas_of_no_comma (no_topComma_parameter hname hcomma),
    List.filterMap_cons, parameterIn_of_name hname]
  rfl

end

/-- The parameters of a constructor are the fields of its variant. -/
theorem parametersIn_fields {fs : List Field} (hwf : ∀ g ∈ fs, g.WellFormed)
    (hclosed : ∀ g ∈ fs.dropLast, g.Closed) :
    parametersIn ((String.intercalate ", " (fs.map declaration)).toList ++
      ") -> Self \x7b".toList) = fs.map fun g => escape g.name := by
  have hword : ∀ g ∈ fs, isWord (escape g.name) = true := fun g hg =>
    isWord_escape (isIdentifierPart_of_mem (hwf g hg).name)
  have hdecl : ∀ g : Field,
      (declaration g).toList = (escape g.name).toList ++ ':' :: (' ' :: g.type.toList) := by
    intro g
    unfold declaration
    simp
  by_cases hne : fs = []
  · subst hne
    rfl
  · refine filterMap_splitAtCommas parameterIn_space (by decide) hne (fun g hg => ?_) (fun g hg => ?_)
      fun g hg rest _ => ?_
    · rw [hdecl]
      exact no_topComma_parameter (hword g hg) (hwf g hg).no_topComma
    · rw [hdecl, List.append_cons, Scan.read_append,
        Scan.start_read_neutral (neutral_of_mem_name (hword g (List.mem_of_mem_dropLast hg)))]
      exact hclosed g hg
    · rw [hdecl, List.append_assoc, List.cons_append]
      exact parameterIn_of_name (hword g hg) _

/-! ## Functions -/

theorem functionNames_paren (name : String) (list : List Char) : functionNames name ('(' :: list) =
    ⟨.function, name⟩ :: (parametersIn list).map fun p => ⟨.parameter, p⟩ := rfl

/-- Type parameters stand before the parenthesis. -/
theorem functionNames_generics {name : String} {generics : List Char} (h : '(' ∉ generics)
    (list : List Char) : functionNames name (generics ++ '(' :: list) =
      ⟨.function, name⟩ :: (parametersIn list).map fun p => ⟨.parameter, p⟩ := by
  have hdrop : (generics ++ '(' :: list).dropWhile (· != '(') = '(' :: list := by
    rw [List.dropWhile_append_of_pos fun c hc => by simpa using ne_of_mem_of_not_mem hc h]
    rfl
  rw [functionNames, hdrop]
  rfl

theorem declaredIn_methodDeclaration {f : Family} (hf : f.WellFormed) {v : Variant}
    (hv : v.WellFormed) : declaredIn (methodDeclaration f v) =
      [⟨.function, methodName f v⟩, ⟨.parameter, parameterName f⟩] := by
  have hcomma : ',' ∉ " &".toList ++ (v.name.toList ++ ')' :: " -> R;".toList) := by
    have hname : ',' ∉ v.name.toList :=
      notMem_of_isIdentifierPart (by decide) (isIdentifierPart_of_mem hv.name)
    simp [hname]
  have hparameters : parametersIn ("&mut self".toList ++ ',' :: ' ' :: ((parameterName f).toList ++
      ':' :: (" &".toList ++ (v.name.toList ++ ')' :: " -> R;".toList)))) = [parameterName f] := by
    have hlast := parametersIn_last (isWord_parameterName hf) (no_topComma_of_notMem .start hcomma)
    have hself : parameterIn "&mut self".toList = none := by decide
    rw [parametersIn, splitAtCommas_cons (by decide) (by decide), List.filterMap_cons_none hself]
    rw [← parametersIn_space, parametersIn] at hlast
    exact hlast
  rw [declaredIn, words_methodDeclaration hf hv, namesAfter_fn, functionNames_paren, hparameters]
  rfl

theorem declaredIn_constructor {v : Variant} (hv : v.WellFormed) :
    declaredIn ("pub fn new(" ++ String.intercalate ", " (v.fields.map declaration) ++
      ") -> Self \x7b") = ⟨.function, "new"⟩ ::
        v.fields.map fun g => ⟨.parameter, escape g.name⟩ := by
  rw [declaredIn, words_new, namesAfter_pub_fn, functionNames_paren,
    parametersIn_fields hv.fields hv.closed, List.map_map]
  rfl

/-- A comma between brackets belongs to a type. -/
example : declaredIn "pub fn new(r#type: fn(A, B) -> C, x: T) -> Self \x7b" =
    [⟨.function, "new"⟩, ⟨.parameter, "r#type"⟩, ⟨.parameter, "x"⟩] := by decide

theorem declaredIn_acceptHead {f : Family} (hf : f.WellFormed) :
    declaredIn (acceptHead f) = [⟨.function, "accept"⟩, ⟨.parameter, "visitor"⟩] := by
  have hgenerics : '(' ∉ '<' :: ("R, V: ".toList ++ (f.name.toList ++
      "Visitor<R> + ?Sized>".toList)) := by
    have hname : '(' ∉ f.name.toList :=
      notMem_of_isIdentifierPart (by decide) (isIdentifierPart_of_mem hf.name)
    simp [hname]
  have hparameters : parametersIn "&self, visitor: &mut V) -> R \x7b".toList = ["visitor"] := by
    decide
  rw [declaredIn, words_acceptHead, namesAfter_pub_fn, ← List.cons_append,
    functionNames_generics hgenerics, hparameters]
  rfl

theorem declaredIn_from {name : String} (h : isWord name = true) :
    declaredIn ("fn from(node: " ++ name ++ ") -> Self \x7b") =
      [⟨.function, "from"⟩, ⟨.parameter, "node"⟩] := by
  have hcomma : ',' ∉ " ".toList ++ (name.toList ++ ')' :: " -> Self \x7b".toList) := by
    have hname : ',' ∉ name.toList := notMem_word h (by decide)
    simp [hname]
  rw [declaredIn, words_from, namesAfter_fn, functionNames_paren,
    parametersIn_last (by decide) (no_topComma_of_notMem .start hcomma)]
  rfl

/-! ## The pieces of a unit -/

/-- The names that the visitor declares. -/
def visitorNames (f : Family) : List DeclaredName :=
  ⟨.type, visitorName f⟩ ::
    f.variants.flatMap fun v => [⟨.function, methodName f v⟩, ⟨.parameter, parameterName f⟩]

/-- The names that the enum declares, with those of its `accept`. -/
def enumNames (f : Family) : List DeclaredName :=
  ⟨.type, f.name⟩ :: (f.variants.map fun v => ⟨.variant, v.name⟩) ++
    [⟨.function, "accept"⟩, ⟨.parameter, "visitor"⟩]

/-- The names that the struct of a variant declares, with those of its functions. -/
def structNames (v : Variant) : List DeclaredName :=
  ⟨.type, v.name⟩ :: (v.fields.map fun g => ⟨.field, escape g.name⟩) ++
    ⟨.function, "new"⟩ :: (v.fields.map fun g => ⟨.parameter, escape g.name⟩) ++
    [⟨.function, "accept"⟩, ⟨.parameter, "visitor"⟩, ⟨.function, "from"⟩, ⟨.parameter, "node"⟩]

theorem declaredNames_prelude (f : Family) : declaredNames (prelude f) = [] := by
  have hcomment : declaredIn ("// Generated by astgen from the `" ++ f.name ++
      "` grammar. Do not edit by hand.") = [] := by
    rw [declaredIn, words_comment, namesAfter_word "" (by decide)]
  simp [prelude, hcomment]

theorem declaredNames_deriveLine (o : Options) : declaredNames (deriveLine o) = [] := by
  have hattribute : declaredIn ("#[derive(" ++ String.intercalate ", " o.derives ++ ")]") = [] := by
    rw [declaredIn, words_derive, namesAfter_word "#" (by decide)]
  rw [deriveLine]
  split
  · rfl
  · simp [hattribute]

theorem declaredIn_construction (v : Variant) : declaredIn (construction v) = [] := by
  obtain ⟨rest, hwords⟩ := words_construction v
  rw [declaredIn, hwords, namesAfter_of_ne (by decide) (by decide) (by simp)]

section

variable {f : Family} (hf : f.WellFormed)

include hf

theorem declaredNames_visitor : declaredNames (visitor f) = visitorNames f := by
  have hname : isWord (visitorName f) = true :=
    isWord_append (isWord_of_isIdentifier hf.name) (by decide)
  have hmethods : declaredNames (f.variants.map fun v => .line (methodDeclaration f v)) = _ :=
    declaredNames_map_line fun v hv => declaredIn_methodDeclaration hf (hf.variants v hv)
  simp [visitor, visitorNames, declaredIn_trait hname, hmethods]

theorem declaredNames_forwarding : declaredNames (forwarding f) = [] := by
  have hcase : ∀ v ∈ f.variants,
      declaredIn (f.name ++ "::" ++ v.name ++ "(node) => node.accept(visitor),") = [] := by
    intro v _
    rw [String.append_assoc]
    exact declaredIn_path (isWord_of_isIdentifier hf.name) _
  have hcases := declaredNames_map_line hcase
  have hmatch : declaredIn "match self \x7b" = [] ∧ declaredIn "match *self \x7b\x7d" = [] := by
    decide
  rw [forwarding]
  split
  · simp [hmatch]
  · simp [hmatch, hcases]

theorem declaredNames_base (o : Options) : declaredNames (base o f) = enumNames f := by
  have hname := isWord_of_isIdentifier hf.name
  have hvariants : declaredNames (f.variants.map fun v => .line (v.name ++ "(" ++ v.name ++ "),")) =
      _ := declaredNames_map_line_one fun v hv =>
    declaredIn_variant (isWord_of_isIdentifier (hf.variants v hv).name)
  simp only [base, enumNames, declaredNames_append, declaredNames_cons, declaredNames_nil,
    declaredNames_deriveLine, hvariants, declaredNames_forwarding hf, Step.text_opening,
    Step.text_closing, Step.text_blank, declaredIn_enum hname, declaredIn_closing, declaredIn_blank,
    declaredIn_impl hname, declaredIn_acceptHead hf]
  simp

theorem declaredNames_variant (o : Options) {v : Variant} (hv : v ∈ f.variants) :
    declaredNames (variant o f v) = structNames v := by
  have hname := isWord_of_isIdentifier (hf.variants v hv).name
  have hfields : declaredNames (v.fields.map fun g => .line ("pub " ++ declaration g ++ ",")) = _ :=
    declaredNames_map_line_one fun g hg => declaredIn_field ((hf.variants v hv).fields g hg)
  have hattribute : declaredIn "#[allow(clippy::too_many_arguments)]" = [] := by decide
  have hcall : declaredIn ("visitor." ++ methodName f v ++ "(self)") = [] := by
    rw [declaredIn, words_call, namesAfter_word "visitor" (by decide)]
  have hconversion : declaredIn ("impl From<" ++ v.name ++ "> for " ++ f.name ++ " \x7b") = [] := by
    rw [declaredIn, words_conversion, namesAfter_of_ne (by decide) (by decide) (by simp)]
  have hpath : declaredIn (f.name ++ "::" ++ v.name ++ "(node)") = [] := by
    rw [String.append_assoc]
    exact declaredIn_path (isWord_of_isIdentifier hf.name) _
  simp only [variant, structNames, declaredNames_append, declaredNames_cons, declaredNames_nil,
    declaredNames_deriveLine, hfields, Step.text_opening, Step.text_line, Step.text_closing,
    Step.text_blank, declaredIn_struct hname, declaredIn_closing, declaredIn_blank,
    declaredIn_impl hname, hattribute, declaredIn_constructor (hf.variants v hv),
    declaredIn_construction, declaredIn_acceptHead hf, hcall, hconversion, declaredIn_from hname, hpath]
  simp

/-- A unit declares the names of its visitor, of its enum and of its structs. -/
theorem declaredNames_steps (o : Options) : declaredNames ((Target.rust o).steps f) =
    visitorNames f ++ enumNames f ++ f.variants.flatMap structNames := by
  have hvariants := List.flatMap_congr fun v hv => declaredNames_variant hf o hv
  simp only [Target.steps, Target.prelude, Target.visitor, Target.base, Target.variant,
    Target.epilogue, declaredNames_append, declaredNames_flatMap, declaredNames_prelude,
    declaredNames_visitor hf, declaredNames_base hf, hvariants]
  simp

end

end VisitorGen.Rust
