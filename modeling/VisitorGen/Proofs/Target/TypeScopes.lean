import VisitorGen.Proofs.Target.Acceptance
import VisitorGen.Proofs.Target.DeclaredNames

set_option autoImplicit false

/-! # The type parameters around a type

The visitor has a type parameter, and so have the methods that accept it. A row inside of such a
block that names a type by a parameter's name does not mean the declared type, it is *captured*. The
scopes follow from the steps of a unit alone: an opening step opens a block, which has the type
parameters of its row and of the head on the line before it, and a closing step closes the last one
(`Scope.after`). In this way every type that a method of the visitor takes, and every enum that a
match arm or a conversion names, can be read with the parameters around it (`Target.typeUses_steps`).
Nothing is captured exactly if no variant has the name of the visitor's parameter and, where match
arms name the family, the family has no name of a parameter of `accept`. No check compares these
names (`Target.captured_iff`). -/

namespace VisitorGen

open Text

/-! ## Scopes -/

/-- What a row says of types. -/
inductive TypeMention where
  /-- The row declares a type parameter. -/
  | parameter (name : String)
  /-- The row names a type. -/
  | use (name : String)
  deriving DecidableEq, Repr

/-- The type parameters among what is said. -/
def TypeMention.parameters (mentions : List TypeMention) : List String :=
  mentions.filterMap fun
    | .parameter name => some name
    | .use _ => none

/-- The names of types among what is said. -/
def TypeMention.uses (mentions : List TypeMention) : List String :=
  mentions.filterMap fun
    | .parameter _ => none
    | .use name => some name

/-- The name of a type with the type parameters in whose scope it stands. -/
structure TypeUse where
  name : String
  scope : List String
  deriving DecidableEq, Repr

/-- A type parameter takes the place of the declared type. -/
def TypeUse.Captured (use : TypeUse) : Prop :=
  use.name ∈ use.scope

/-- The type parameters of the open blocks, the innermost first, and those of the last line, where it
    may be the head of the next block. -/
structure Scope where
  blocks : List (List String)
  head : List String
  deriving DecidableEq, Repr

/-- The scope in which a unit starts. -/
def Scope.outermost : Scope := ⟨[], []⟩

section

variable (types : List String → List Char → List TypeMention)

/-- The type parameters that a line brings to the next block, where `types` tells what a row says of
    types. A line that ends in a semicolon is complete and heads no block. -/
def headOf (text : String) : List String :=
  if text.toList.getLast? = some ';' then [] else TypeMention.parameters (readRow types text)

/-- The scope after a step. -/
def Scope.after (s : Scope) : Step → Scope
  | .line text => ⟨s.blocks, headOf types text⟩
  | .opening text => ⟨(s.head ++ TypeMention.parameters (readRow types text)) :: s.blocks, []⟩
  | .closing _ => ⟨s.blocks.tail, []⟩
  | .blank => ⟨s.blocks, []⟩

/-- The types that a step names, in the scope of its own type parameters and of the open blocks. -/
def Scope.usesOf (s : Scope) (step : Step) : List TypeUse :=
  (TypeMention.uses (readRow types step.text)).map fun name =>
    ⟨name, TypeMention.parameters (readRow types step.text) ++ s.blocks.flatten⟩

/-- The types that some steps name, and the scope behind them. -/
def readTypes (s : Scope) : List Step → List TypeUse × Scope
  | [] => ([], s)
  | step :: steps =>
    (s.usesOf types step ++ (readTypes (s.after types step) steps).1,
      (readTypes (s.after types step) steps).2)

theorem readTypes_nil (s : Scope) : readTypes types s [] = ([], s) := rfl

theorem readTypes_append (s : Scope) (as bs : List Step) : readTypes types s (as ++ bs) =
    ((readTypes types s as).1 ++ (readTypes types (readTypes types s as).2 bs).1,
      (readTypes types (readTypes types s as).2 bs).2) := by
  induction as generalizing s with
  | nil => simp [readTypes]
  | cons step as ih => simp [readTypes, ih]

variable {types} {α : Type}

theorem headOf_of_parameters {text : String} (h : TypeMention.parameters (readRow types text) = []) :
    headOf types text = [] := by
  rw [headOf, h, ite_self]

/-- A line that says nothing of types brings no type parameters. -/
theorem headOf_of_nil {text : String} (h : readRow types text = []) : headOf types text = [] := by
  apply headOf_of_parameters
  rw [h]
  rfl

/-- Pieces that close all their blocks leave the blocks around them open. -/
theorem readTypes_flatMap {piece : α → List Step} {xs : List α} {uses : α → List TypeUse}
    {blocks : List (List String)}
    (h : ∀ x ∈ xs, readTypes types ⟨blocks, []⟩ (piece x) = (uses x, ⟨blocks, []⟩)) :
    readTypes types ⟨blocks, []⟩ (xs.flatMap piece) = (xs.flatMap uses, ⟨blocks, []⟩) := by
  induction xs with
  | nil => rfl
  | cons x xs ih =>
    rw [List.forall_mem_cons] at h
    -- a piece ends in the scope in which it started, so the next one starts there as well
    rw [List.flatMap_cons, readTypes_append, h.1, ih h.2, List.flatMap_cons]

/-- Lines without type parameters, each of which names one type. -/
theorem readTypes_map_line {text name : α → String} {xs : List α}
    (h : ∀ x ∈ xs, readRow types (text x) = [.use (name x)]) (blocks : List (List String)) :
    readTypes types ⟨blocks, []⟩ (xs.map fun x => .line (text x)) =
      (xs.map fun x => ⟨name x, blocks.flatten⟩, ⟨blocks, []⟩) := by
  rw [List.map_eq_flatMap, List.map_eq_flatMap]
  refine readTypes_flatMap fun x hx => ?_
  have hhead : headOf types (text x) = [] := by
    apply headOf_of_parameters
    rw [h x hx]
    rfl
  simp [readTypes, Scope.usesOf, Scope.after, h x hx, hhead, TypeMention.uses,
    TypeMention.parameters]

/-- Lines that say nothing of types. -/
theorem readTypes_map_line_nil {text : α → String} {xs : List α}
    (h : ∀ x ∈ xs, readRow types (text x) = []) (blocks : List (List String)) :
    readTypes types ⟨blocks, []⟩ (xs.map fun x => .line (text x)) = ([], ⟨blocks, []⟩) := by
  have hlines : ∀ x ∈ xs, readTypes types ⟨blocks, []⟩ [.line (text x)] = ([], ⟨blocks, []⟩) := by
    intro x hx
    simp [readTypes, Scope.usesOf, Scope.after, h x hx, headOf_of_nil (h x hx), TypeMention.uses]
  rw [List.map_eq_flatMap, readTypes_flatMap hlines]
  simp

end

/-- The type parameters in a list that follows an angle bracket. The bound of a parameter is not
    looked at. -/
def typeParametersIn (list : List Char) : List TypeMention :=
  ((list.takeWhile (· != '>')).splitOn ',').filterMap fun part =>
    ((readWords part).1.find? (· ≠ "")).map .parameter

/-! ## The scopes of C# -/

namespace CSharp

/-- The words before a name with type parameters: the visitor, and the methods that accept it. -/
def typeHeads : List (List String) :=
  [["public", "interface"], ["public", "abstract", "R"], ["public", "override", "R"]]

/-- What a row says of types behind its words. A method of the visitor has one parameter, with its
    type before its name. -/
def typesAfter (words : List String) (rest : List Char) : List TypeMention :=
  if words.dropLast = ["R"] then [.use (String.ofList ((rest.drop 1).takeWhile isNameChar))]
  else if words.dropLast ∈ typeHeads ∧ rest.head? = some '<' then typeParametersIn (rest.drop 1)
  else []

theorem typesAfter_of_notMem {words : List String} (hmethod : words.dropLast ≠ ["R"])
    (h : words.dropLast ∉ typeHeads) (rest : List Char) : typesAfter words rest = [] := by
  rw [typesAfter, if_neg hmethod, if_neg (mt And.left h)]

/-! ### Rows -/

theorem types_mark : readRow typesAfter "" = [] ∧ readRow typesAfter "\x7b" = [] ∧
    readRow typesAfter "\x7d" = [] := by
  decide

theorem types_visitorHead :
    readRow typesAfter ("public interface " ++ visitorName ++ "<R>") = [.parameter "R"] ∧
      headOf typesAfter ("public interface " ++ visitorName ++ "<R>") = ["R"] := by
  decide

theorem types_acceptHead :
    readRow typesAfter ("public override R " ++ acceptName ++ "<R>(" ++ visitorName ++
        "<R> visitor)") = [.parameter "R"] ∧
      headOf typesAfter ("public override R " ++ acceptName ++ "<R>(" ++ visitorName ++
        "<R> visitor)") = ["R"] := by
  decide

/-- A row that starts with another word says nothing of types. -/
theorem types_of_words {row word : String} {words : List String} {rest : List Char}
    (h : readWords row.toList = (word :: words, rest)) (hpublic : word ≠ "public")
    (hresult : word ≠ "R") : readRow typesAfter row = [] := by
  have hfirst : ∀ head ∈ ["R"] :: typeHeads, (word :: words).dropLast ≠ head := by
    cases words with
    | nil => simp [typeHeads]
    | cons next words => simp [typeHeads, hpublic, hresult]
  rw [List.forall_mem_cons] at hfirst
  rw [readRow_eq h, typesAfter_of_notMem hfirst.1 fun hmem => hfirst.2 _ hmem rfl]

theorem types_baseClass {name : String} (h : isWord name = true) :
    readRow typesAfter ("public abstract class " ++ name) = [] := by
  rw [readRow_eq (words_baseClass h), typesAfter_of_notMem (by simp) (by simp [typeHeads])]

theorem types_class {name : String} (h : isWord name = true) (base : String) :
    readRow typesAfter ("public class " ++ name ++ " : " ++ base) = [] := by
  rw [readRow_eq (words_class h base), typesAfter_of_notMem (by simp) (by simp [typeHeads])]

theorem types_constructor {name : String} (h : isWord name = true) (parameters : String) :
    readRow typesAfter ("public " ++ name ++ "(" ++ parameters ++ ")") = [] := by
  rw [readRow_eq (words_constructor h parameters),
    typesAfter_of_notMem (by simp) (by simp [typeHeads])]

/-- The type of a field is not looked at. -/
theorem types_field (g : Field) :
    readRow typesAfter ("public readonly " ++ parameter g ++ ";") = [] := by
  obtain ⟨next, words, hwords⟩ :=
    List.exists_cons_of_ne_nil (readWords_ne_nil (parameter g ++ ";").toList)
  rw [readRow_eq (words_field g), hwords, typesAfter_of_notMem (by simp) (by simp [typeHeads])]

section

variable {f : Family} (hf : f.WellFormed)

include hf

theorem types_methodDeclaration {v : Variant} (hv : v.WellFormed) :
    readRow typesAfter (methodDeclaration f v) = [.use v.name] := by
  have htype : (v.name.toList ++ ' ' :: (parameterName f ++ ");").toList).takeWhile isNameChar =
      v.name.toList := by
    rw [List.takeWhile_append_of_pos (List.all_eq_true.mp (isWord_of_isIdentifier hv.name)),
      List.takeWhile_cons_of_neg (by decide), List.append_nil]
  rw [readRow_eq (words_methodDeclaration hf hv), typesAfter, if_pos (by rfl), List.drop_one,
    List.tail_cons, htype, String.ofList_toList]

/-! ### The pieces of a unit -/

/-- The prelude opens the namespace and the base class. -/
theorem types_prelude (o : Options) :
    readTypes typesAfter .outermost (prelude o f) = ([], ⟨[[], []], []⟩) := by
  have husings : readTypes typesAfter ⟨[], []⟩ (usings.map fun u => .line ("using " ++ u ++ ";")) =
      ([], ⟨[], []⟩) := readTypes_map_line_nil (by decide) []
  rw [prelude, readTypes_append, Scope.outermost, husings]
  simp [readTypes, Scope.usesOf, Scope.after, headOf_of_nil, TypeMention.uses,
    TypeMention.parameters, types_mark,
    types_of_words (words_namespace o.space) (by decide) (by decide),
    types_baseClass (isWord_of_isIdentifier hf.name)]

/-- The methods of the visitor stand in the scope of its type parameter. -/
theorem types_visitorMethods (blocks : List (List String)) :
    readTypes typesAfter ⟨blocks, []⟩ (visitor f) =
      (f.variants.map fun v => ⟨v.name, "R" :: blocks.flatten⟩, ⟨blocks, []⟩) := by
  have hmethods := readTypes_map_line
    (fun v hv => types_methodDeclaration hf (hf.variants v hv)) (["R"] :: blocks)
  simp [visitor, readTypes_append, readTypes, Scope.usesOf, Scope.after, TypeMention.uses,
    TypeMention.parameters, types_mark, types_visitorHead, hmethods]

theorem types_variant {v : Variant} (hv : v ∈ f.variants) (blocks : List (List String)) :
    readTypes typesAfter ⟨blocks, []⟩ (variant f v) = ([], ⟨blocks, []⟩) := by
  have hname := isWord_of_isIdentifier (hf.variants v hv).name
  have hfields : readTypes typesAfter ⟨[] :: blocks, []⟩
      (v.fields.map fun g => .line ("public readonly " ++ parameter g ++ ";")) =
        ([], ⟨[] :: blocks, []⟩) := readTypes_map_line_nil (fun g _ => types_field g) _
  have hassignments : readTypes typesAfter ⟨[] :: [] :: blocks, []⟩
      (v.fields.map fun g => .line ("this." ++ escape g.name ++ " = " ++ escape g.name ++ ";")) =
        ([], ⟨[] :: [] :: blocks, []⟩) := readTypes_map_line_nil (fun g _ =>
    types_of_words (words_assignment g) (by decide) (by decide)) _
  simp [variant, readTypes_append, readTypes, Scope.usesOf, Scope.after, headOf_of_nil,
    TypeMention.uses, TypeMention.parameters, types_mark, types_class hname, hfields,
    types_constructor hname, hassignments, types_acceptHead,
    types_of_words (words_return (dispatchName f.name v.name)) (by decide) (by decide)]

/-- The types that the methods of the visitor take, in the scope of its type parameter. -/
theorem typeUses_steps (o : Options) :
    (readTypes typesAfter .outermost ((Target.csharp o).steps f)).1 =
      f.variants.map fun v => ⟨v.name, ["R"]⟩ := by
  have hbase : readTypes typesAfter ⟨[[], []], []⟩ base = ([], ⟨[[], []], []⟩) := by decide
  have hvariants : readTypes typesAfter ⟨[[], []], []⟩
      (f.variants.flatMap ((Target.csharp o).variant f)) = _ :=
    readTypes_flatMap fun v hv => types_variant hf hv [[], []]
  have hepilogue : ∀ s, (readTypes typesAfter s epilogue).1 = [] := by
    intro s
    simp [epilogue, readTypes, Scope.usesOf, TypeMention.uses, types_mark]
  simp only [Target.steps, Target.prelude, Target.visitor, Target.base, Target.epilogue,
    readTypes_append, types_prelude hf, types_visitorMethods hf, hbase, hvariants, hepilogue]
  simp

end

end CSharp

/-! ## The scopes of Rust -/

namespace Rust

/-- The marks between a parameter and its type, which may be a reference. -/
def isTypeMark (c : Char) : Bool :=
  c == ':' || c == ' ' || c == '&'

/-- The type of a parameter, if it has one. -/
def typeIn (part : List Char) : Option TypeMention :=
  ((some (String.ofList (((part.dropWhile (· != ':')).dropWhile isTypeMark).takeWhile
    isNameChar))).filter (· ≠ "")).map .use

/-- The words before a name with type parameters: the visitor, and the methods that accept it. -/
def typeHeads : List (List String) :=
  [["pub", "trait"], ["pub", "fn"]]

/-- What a row says of types behind its words. The functions of a trait have the types of their
    parameters, and the path to a variant starts with the name of the enum. -/
def typesAfter (words : List String) (rest : List Char) : List TypeMention :=
  if words.dropLast = ["fn"] then (splitAtCommas (rest.drop 1)).filterMap typeIn
  else if words.dropLast = [] ∧ rest.take 2 = [':', ':'] then words.map .use
  else if words.dropLast ∈ typeHeads ∧ rest.head? = some '<' then typeParametersIn (rest.drop 1)
  else []

theorem typesAfter_path (name : String) (rest : List Char) :
    typesAfter [name] (':' :: ':' :: rest) = [.use name] := by
  rw [typesAfter, if_neg (by simp), if_pos (by simp), List.map_singleton]

theorem typesAfter_generic {words : List String} (h : words.dropLast ∈ typeHeads) (list : List Char) :
    typesAfter words ('<' :: list) = typeParametersIn list := by
  have hfn : words.dropLast ≠ ["fn"] := fun heq => absurd h (by rw [heq]; decide)
  rw [typesAfter, if_neg hfn, if_neg (by simp), if_pos ⟨h, rfl⟩, List.drop_one, List.tail_cons]

theorem typesAfter_of_notMem {words : List String} (h : words.dropLast ∉ [] :: ["fn"] :: typeHeads)
    (rest : List Char) : typesAfter words rest = [] := by
  simp only [List.mem_cons, not_or] at h
  rw [typesAfter, if_neg h.2.1, if_neg (mt And.left h.1), if_neg (mt And.left h.2.2)]

/-! ### Rows -/

theorem types_mark : readRow typesAfter "" = [] ∧ readRow typesAfter "\x7d" = [] ∧
    readRow typesAfter "match self \x7b" = [] ∧ readRow typesAfter "match *self \x7b\x7d" = [] ∧
      readRow typesAfter "#[allow(clippy::too_many_arguments)]" = [] := by
  decide

theorem types_of_words {row : String} {words : List String} {rest : List Char}
    (h : readWords row.toList = (words, rest)) (hwords : words.dropLast ∉ [] :: ["fn"] :: typeHeads) :
    readRow typesAfter row = [] := by
  rw [readRow_eq h, typesAfter_of_notMem hwords]

/-- A single word means a type only at the start of a path. -/
theorem types_of_word {row word : String} {c : Char} {rest : List Char}
    (h : readWords row.toList = ([word], c :: rest)) (hc : c ≠ ':') : readRow typesAfter row = [] := by
  rw [readRow_eq h, typesAfter, if_neg (by simp), if_neg (by simp [hc]), if_neg (by simp [typeHeads])]

theorem types_constructor (parameters : String) :
    readRow typesAfter ("pub fn new(" ++ parameters ++ ") -> Self \x7b") = [] := by
  rw [readRow_eq (words_new parameters), typesAfter, if_neg (by simp), if_neg (by simp),
    if_neg (by simp)]

theorem types_construction (v : Variant) : readRow typesAfter (construction v) = [] := by
  obtain ⟨rest, hwords⟩ := words_construction v
  exact types_of_words hwords (by simp [typeHeads])

theorem types_visitorHead {name : String} (h : isWord name = true) :
    readRow typesAfter ("pub trait " ++ name ++ "<R> \x7b") = [.parameter "R"] := by
  have hlist : typeParametersIn "R> \x7b".toList = [.parameter "R"] := by decide
  rw [readRow_eq (words_trait h), typesAfter_generic (by simp [typeHeads]), hlist]

section

variable {f : Family} (hf : f.WellFormed)

include hf

/-- The second type parameter of `accept` is bounded by the visitor of the family. -/
theorem types_acceptHead :
    readRow typesAfter (acceptHead f) = [.parameter "R", .parameter "V"] := by
  have hangle : '>' ∉ f.name.toList :=
    notMem_of_isIdentifierPart (by decide) (isIdentifierPart_of_mem hf.name)
  have hcomma : ',' ∉ f.name.toList :=
    notMem_of_isIdentifierPart (by decide) (isIdentifierPart_of_mem hf.name)
  -- the bound holds the first closing bracket
  have htake : ("R, V: ".toList ++ (f.name.toList ++ "Visitor<R> + ?Sized>".toList) ++
      '(' :: "&self, visitor: &mut V) -> R \x7b".toList).takeWhile (· != '>') =
        "R".toList ++ ',' :: ("".toList ++ ' ' :: ("V".toList ++ ':' :: ' ' ::
          (f.name.toList ++ "Visitor<R".toList))) := by
    have hlist : "R, V: ".toList ++ (f.name.toList ++ "Visitor<R> + ?Sized>".toList) ++
        '(' :: "&self, visitor: &mut V) -> R \x7b".toList =
          ("R".toList ++ ',' :: ("".toList ++ ' ' :: ("V".toList ++ ':' :: ' ' ::
            (f.name.toList ++ "Visitor<R".toList)))) ++
              '>' :: " + ?Sized>(&self, visitor: &mut V) -> R \x7b".toList := by simp
    rw [hlist, List.takeWhile_append_of_pos, List.takeWhile_cons_of_neg (by decide), List.append_nil]
    intro c hc
    have hne : c ≠ '>' := by
      rintro rfl
      simp [hangle] at hc
    simpa using hne
  have hsplit : ("R".toList ++ ',' :: ("".toList ++ ' ' :: ("V".toList ++ ':' :: ' ' ::
      (f.name.toList ++ "Visitor<R".toList)))).splitOn ',' =
        ["R".toList, "".toList ++ ' ' :: ("V".toList ++ ':' :: ' ' ::
          (f.name.toList ++ "Visitor<R".toList))] := by
    rw [List.splitOn_append_cons_self_of_not_mem (by decide), List.splitOn_eq_singleton]
    simp [hcomma]
  rw [readRow_eq (words_acceptHead f), typesAfter_generic (by decide), typeParametersIn, htake, hsplit,
    List.filterMap_cons, List.filterMap_cons, readWords_word (by decide), readWords_cons (by decide),
    readWords_last (by decide) (by decide)]
  rfl

omit hf in
/-- The type of a parameter stands behind the marks between the two. -/
theorem typeIn_of_name {name : String} (h : isIdentifier name.toList = true) {front marks : List Char}
    (hfront : ':' ∉ front) (hmarks : marks.all isTypeMark = true) (rest : List Char) :
    typeIn (front ++ ':' :: (marks ++ (name.toList ++ ')' :: rest))) = some (.use name) := by
  have hdrop : (front ++ ':' :: (marks ++ (name.toList ++ ')' :: rest))).dropWhile (· != ':') =
      ':' :: (marks ++ (name.toList ++ ')' :: rest)) := by
    rw [List.dropWhile_append_of_pos fun c hc => by simpa using ne_of_mem_of_not_mem hc hfront]
    rfl
  have hskip : (':' :: (marks ++ (name.toList ++ ')' :: rest))).dropWhile isTypeMark =
      name.toList ++ ')' :: rest := by
    rw [List.dropWhile_cons_of_pos (by decide),
      List.dropWhile_append_of_pos (List.all_eq_true.mp hmarks)]
    cases hname : name.toList with
    | nil => exact absurd hname (ne_nil_of_isIdentifier h)
    | cons c cs =>
      have hpart := isIdentifierPart_of_mem h c (by simp [hname])
      exact List.dropWhile_cons_of_neg fun hmark =>
        absurd hpart (by
          simp only [isTypeMark, Bool.or_eq_true, beq_iff_eq] at hmark
          rcases hmark with (rfl | rfl) | rfl <;> decide)
  have htake : (name.toList ++ ')' :: rest).takeWhile isNameChar = name.toList := by
    rw [List.takeWhile_append_of_pos (List.all_eq_true.mp (isWord_of_isIdentifier h)),
      List.takeWhile_cons_of_neg (by decide), List.append_nil]
  rw [typeIn, hdrop, hskip, htake, String.ofList_toList, Option.filter_some,
    if_pos (by simpa using ne_empty_of_isIdentifier h)]
  rfl

theorem types_methodDeclaration {v : Variant} (hv : v.WellFormed) :
    readRow typesAfter (methodDeclaration f v) = [.use v.name] := by
  have hparameter := isWord_parameterName hf
  have hcomma : hasTopComma .start ((' ' :: (parameterName f).toList) ++ ':' :: (" &".toList ++
      (v.name.toList ++ ')' :: " -> R;".toList))) = false := by
    have hname : ',' ∉ v.name.toList :=
      notMem_of_isIdentifierPart (by decide) (isIdentifierPart_of_mem hv.name)
    have hparam : ',' ∉ (parameterName f).toList := notMem_word hparameter (by decide)
    exact no_topComma_of_notMem _ (by simp [hname, hparam])
  have hself : typeIn "&mut self".toList = none := by decide
  have hcolon : ':' ∉ ' ' :: (parameterName f).toList := by
    simp [notMem_word hparameter (by decide : isNameChar ':' = false)]
  rw [readRow_eq (words_methodDeclaration hf hv), typesAfter, if_pos (by rfl), List.drop_one,
    List.tail_cons, ← List.cons_append, splitAtCommas_cons (by decide) (by decide),
    splitAtCommas_of_no_comma hcomma, List.filterMap_cons_none hself,
    List.filterMap_cons_some (typeIn_of_name hv.name hcolon (by decide) _)]
  rfl

omit hf in
theorem types_from {name : String} (h : isIdentifier name.toList = true) :
    readRow typesAfter ("fn from(node: " ++ name ++ ") -> Self \x7b") = [.use name] := by
  have hcomma : hasTopComma .start ("node".toList ++ ':' :: (" ".toList ++
      (name.toList ++ ')' :: " -> Self \x7b".toList))) = false := by
    have hname : ',' ∉ name.toList :=
      notMem_of_isIdentifierPart (by decide) (isIdentifierPart_of_mem h)
    exact no_topComma_of_notMem _ (by simp [hname])
  rw [readRow_eq (words_from name), typesAfter, if_pos (by rfl), List.drop_one, List.tail_cons,
    splitAtCommas_of_no_comma hcomma,
    List.filterMap_cons_some (typeIn_of_name h (by decide) (by decide) _)]
  rfl

theorem types_path (rest : String) : readRow typesAfter (f.name ++ "::" ++ rest) = [.use f.name] := by
  rw [readRow_eq (words_path (isWord_of_isIdentifier hf.name) rest), typesAfter_path]

/-! ### The pieces of a unit -/

omit hf in
theorem types_prelude (f : Family) :
    readTypes typesAfter .outermost (prelude f) = ([], ⟨[], []⟩) := by
  simp [prelude, readTypes, Scope.outermost, Scope.usesOf, Scope.after, headOf_of_nil,
    TypeMention.uses, types_mark, types_of_word (words_comment f.name) (by decide)]

omit hf in
theorem types_deriveLine (o : Options) (blocks : List (List String)) :
    readTypes typesAfter ⟨blocks, []⟩ (deriveLine o) = ([], ⟨blocks, []⟩) := by
  rw [deriveLine]
  split
  · rfl
  · simp [readTypes, Scope.usesOf, Scope.after, headOf_of_nil, TypeMention.uses,
      types_of_word (words_derive _) (by decide)]

/-- The methods of the visitor stand in the scope of its type parameter. -/
theorem types_visitorMethods (blocks : List (List String)) :
    readTypes typesAfter ⟨blocks, []⟩ (visitor f) =
      (f.variants.map fun v => ⟨v.name, "R" :: blocks.flatten⟩, ⟨blocks, []⟩) := by
  have hname : isWord (visitorName f) = true :=
    isWord_append (isWord_of_isIdentifier hf.name) (by decide)
  have hmethods := readTypes_map_line
    (fun v hv => types_methodDeclaration hf (hf.variants v hv)) (["R"] :: blocks)
  simp [visitor, readTypes_append, readTypes, Scope.usesOf, Scope.after, TypeMention.uses,
    TypeMention.parameters, types_mark, types_visitorHead hname, hmethods]

/-- Every match arm names the family. -/
theorem types_forwarding (blocks : List (List String)) :
    readTypes typesAfter ⟨blocks, []⟩ (forwarding f) =
      (f.variants.map fun _ => ⟨f.name, blocks.flatten⟩, ⟨blocks, []⟩) := by
  have hcase : ∀ v ∈ f.variants, readRow typesAfter
      (f.name ++ "::" ++ v.name ++ "(node) => node.accept(visitor),") = [.use f.name] := by
    intro v _
    rw [String.append_assoc]
    exact types_path hf _
  rw [forwarding]
  split
  · next hempty =>
    rw [List.isEmpty_iff.mp hempty]
    simp [readTypes, Scope.usesOf, Scope.after, headOf_of_nil, TypeMention.uses, types_mark]
  · simp [readTypes_append, readTypes, Scope.usesOf, Scope.after, TypeMention.uses,
      TypeMention.parameters, types_mark, readTypes_map_line hcase]

/-- The match arms stand in the scope of the type parameters of `accept`. -/
theorem types_base (o : Options) (blocks : List (List String)) :
    readTypes typesAfter ⟨blocks, []⟩ (base o f) =
      (f.variants.map fun _ => ⟨f.name, "R" :: "V" :: blocks.flatten⟩, ⟨blocks, []⟩) := by
  have hname := isWord_of_isIdentifier hf.name
  have hvariants : readTypes typesAfter ⟨[] :: blocks, []⟩
      (f.variants.map fun v => .line (v.name ++ "(" ++ v.name ++ "),")) =
        ([], ⟨[] :: blocks, []⟩) := readTypes_map_line_nil (fun v hv =>
    types_of_word (words_variant (isWord_of_isIdentifier (hf.variants v hv).name)) (by decide)) _
  simp [base, readTypes_append, readTypes, Scope.usesOf, Scope.after, TypeMention.uses,
    TypeMention.parameters, types_mark, types_deriveLine, hvariants, types_acceptHead hf,
    types_forwarding hf, types_of_words (words_enum hname) (by simp [typeHeads]),
    types_of_words (words_impl hname) (by simp [typeHeads])]

/-- The conversion of a variant stands in the scope of no type parameter. -/
theorem types_variant (o : Options) {v : Variant} (hv : v ∈ f.variants)
    (blocks : List (List String)) :
    readTypes typesAfter ⟨blocks, []⟩ (variant o f v) =
      ([⟨v.name, blocks.flatten⟩, ⟨f.name, blocks.flatten⟩], ⟨blocks, []⟩) := by
  have hvf := hf.variants v hv
  have hname := isWord_of_isIdentifier hvf.name
  have hfields : readTypes typesAfter ⟨[] :: blocks, []⟩
      (v.fields.map fun g => .line ("pub " ++ declaration g ++ ",")) = ([], ⟨[] :: blocks, []⟩) :=
    readTypes_map_line_nil (fun g hg =>
      types_of_words (words_field (hvf.fields g hg)) (by simp [typeHeads])) _
  have hpath : readRow typesAfter (f.name ++ "::" ++ v.name ++ "(node)") = [.use f.name] := by
    rw [String.append_assoc]
    exact types_path hf _
  have hhead : headOf typesAfter (f.name ++ "::" ++ v.name ++ "(node)") = [] := by
    apply headOf_of_parameters
    rw [hpath]
    rfl
  simp [variant, readTypes_append, readTypes, Scope.usesOf, Scope.after, headOf_of_nil,
    TypeMention.uses, TypeMention.parameters, types_mark, types_deriveLine, hfields, types_constructor,
    types_construction, types_acceptHead hf, types_from hvf.name, hpath, hhead,
    types_of_words (words_struct hname) (by simp [typeHeads]),
    types_of_words (words_impl hname) (by simp [typeHeads]),
    types_of_word (words_call (methodName f v)) (by decide),
    types_of_words (words_conversion v.name f.name) (by simp [typeHeads])]

/-- The types that the methods of the visitor take, the enums of the match arms, and the types of the
    conversions. -/
theorem typeUses_steps (o : Options) :
    (readTypes typesAfter .outermost ((Target.rust o).steps f)).1 =
      (f.variants.map fun v => ⟨v.name, ["R"]⟩) ++ (f.variants.map fun _ => ⟨f.name, ["R", "V"]⟩) ++
        f.variants.flatMap fun v => [⟨v.name, []⟩, ⟨f.name, []⟩] := by
  have hvariants : readTypes typesAfter ⟨[], []⟩
      (f.variants.flatMap ((Target.rust o).variant f)) = _ :=
    readTypes_flatMap fun v hv => types_variant hf o hv []
  simp only [Target.steps, Target.prelude, Target.visitor, Target.base, Target.epilogue,
    readTypes_append, readTypes_nil, types_prelude, types_visitorMethods hf, types_base hf, hvariants]
  simp

end

end Rust

/-! ## Captured types -/

namespace Target

/-- The types that the steps of a unit name, with the type parameters around them. -/
def typeUses : Target → List Step → List TypeUse
  | .csharp _, steps => (readTypes CSharp.typesAfter .outermost steps).1
  | .rust _, steps => (readTypes Rust.typesAfter .outermost steps).1

/-- What a language names beside the types that the methods of the visitor take. -/
def otherUses : Target → Family → List TypeUse
  | .csharp _, _ => []
  | .rust _, f => (f.variants.map fun _ => ⟨f.name, ["R", "V"]⟩) ++
      f.variants.flatMap fun v => [⟨v.name, []⟩, ⟨f.name, []⟩]

theorem typeUses_steps (t : Target) {f : Family} (hf : f.WellFormed) :
    t.typeUses (t.steps f) = (f.variants.map fun v => ⟨v.name, ["R"]⟩) ++ t.otherUses f := by
  cases t with
  | csharp o => rw [typeUses, CSharp.typeUses_steps hf, otherUses, List.append_nil]
  | rust o => rw [typeUses, Rust.typeUses_steps hf, otherUses, List.append_assoc]

/-- No variant has the name of the visitor's type parameter, and no family that match arms name has
    the name of a type parameter of `accept`. -/
def NoCapture (t : Target) (f : Family) : Prop :=
  "R" ∉ f.variantNames ∧
    (t.language = .rust → f.variants ≠ [] → f.name ≠ "R" ∧ f.name ≠ "V")

theorem not_captured_iff (t : Target) {f : Family} (hf : f.WellFormed) :
    (∀ use ∈ t.typeUses (t.steps f), ¬ use.Captured) ↔ t.NoCapture f := by
  have hmethods : (∀ use ∈ f.variants.map fun v => (⟨v.name, ["R"]⟩ : TypeUse), ¬ use.Captured) ↔
      "R" ∉ f.variantNames := by
    simp [TypeUse.Captured, Family.variantNames]
  rw [typeUses_steps t hf, List.forall_mem_append, hmethods, NoCapture, and_congr_right_iff]
  intro _
  -- what is left are the types that only one of the languages names
  cases t with
  | csharp o => simp [otherUses, language]
  | rust o =>
    have harms : (∀ use ∈ f.variants.map fun _ => (⟨f.name, ["R", "V"]⟩ : TypeUse),
        ¬ use.Captured) ↔ (f.variants ≠ [] → f.name ≠ "R" ∧ f.name ≠ "V") := by
      rw [List.forall_mem_map]
      constructor
      · intro h hne
        obtain ⟨v, hv⟩ := List.exists_mem_of_ne_nil _ hne
        simpa [TypeUse.Captured] using h v hv
      · intro h v hv
        simpa [TypeUse.Captured] using h (List.ne_nil_of_mem hv)
    have hconversions : ∀ use ∈ f.variants.flatMap fun v =>
        [(⟨v.name, []⟩ : TypeUse), ⟨f.name, []⟩], ¬ use.Captured := by
      intro use huse
      obtain ⟨v, -, huse⟩ := List.mem_flatMap.mp huse
      rcases List.mem_pair.mp huse with rfl | rfl <;> exact List.not_mem_nil
    rw [otherUses, List.forall_mem_append, harms, and_iff_left hconversions]
    exact ⟨fun h _ => h, fun h => h rfl⟩

/-- **Types that are captured.** The methods of the visitor take the types of the variants, in the
    scope of the visitor's type parameter, and in Rust every match arm names the family, in the scope
    of the type parameters of `accept`. All of them mean the declared types if and only if no variant
    is named as the former and no family with variants as one of the latter. No check sees to that: a
    variant with the name of the visitor's type parameter is accepted in every other family. -/
theorem captured_iff {t : Target} {name : String} {lines : List String} {u : SourceUnit}
    (h : t.generate name lines = .ok u) :
    ∃ f, Family.read name lines = .ok f ∧ u = t.unit f ∧
      t.typeUses (t.steps f) = (f.variants.map fun v => ⟨v.name, ["R"]⟩) ++ t.otherUses f ∧
      ((∀ use ∈ t.typeUses (t.steps f), ¬ use.Captured) ↔ t.NoCapture f) ∧
      (name ≠ "R" → t.accepts ⟨name, ["R : T x"]⟩ = true) := by
  obtain ⟨f, hread, hcheck, rfl⟩ := generate_eq_ok_iff.mp h
  obtain ⟨rfl, hf⟩ := Family.wellFormed_of_read hread
  refine ⟨f, hread, rfl, typeUses_steps t hf, not_captured_iff t hf, fun hne => ?_⟩
  have hdeclares : Variant.Declares "R : T x" ⟨"R", [⟨"T", "x"⟩]⟩ := by cbv
  refine accepts_singleton_iff.mpr
    ⟨⟨hf.name, (check_eq_ok_iff.mp hcheck).1⟩, _, hdeclares, hne.symm, ?_⟩
  cases t with
  | csharp o =>
    show CSharp.checkVariant _ = _
    decide
  | rust o =>
    have hvisitor : "R" ≠ f.name ++ "Visitor" := by
      intro heq
      have hlength := congrArg String.length heq
      rw [String.length_append] at hlength
      have hshort : "R".length = 1 ∧ "Visitor".length = 7 := by decide
      omega
    have hkeyword : Rust.isKeyword "R" = false := by decide
    have hfield : Rust.isPathKeyword "x" = false := by decide
    simp [checkVariant, Rust.checkVariant, hkeyword, hvisitor, hfield]

/-- A family may have the names of both type parameters in its own, its variants that of the second
    one, and its fields any of them. -/
theorem captured_near :
    let t := Target.rust ⟨Rust.defaultDerives⟩
    let f : Family := ⟨"RV", [⟨"V", [⟨"T", "R"⟩]⟩, ⟨"r", []⟩]⟩
    ∃ u, t.generate "RV" ["V : T R", "r :"] = .ok u ∧
      t.typeUses (t.steps f) = [⟨"V", ["R"]⟩, ⟨"r", ["R"]⟩, ⟨"RV", ["R", "V"]⟩, ⟨"RV", ["R", "V"]⟩,
        ⟨"V", []⟩, ⟨"RV", []⟩, ⟨"r", []⟩, ⟨"RV", []⟩] ∧
      ∀ use ∈ t.typeUses (t.steps f), ¬ use.Captured := by
  intro t f
  have hread : Family.read "RV" ["V : T R", "r :"] = .ok f := by cbv
  have hgen := generate_eq_ok_iff.mpr ⟨_, hread, (by decide : t.check _ = .ok ()), rfl⟩
  obtain ⟨f', hread', -, huses, hcapture, -⟩ := captured_iff hgen
  obtain rfl := Except.ok.inj (hread.symm.trans hread')
  exact ⟨_, hgen, huses, hcapture.mpr ⟨by decide, fun _ _ => by decide⟩⟩

/-- A variant with the name of the visitor's type parameter is accepted, and the method of the visitor
    does not take its type. A family with the name of a type parameter of `accept` is accepted as well,
    and the match arms do not name its enum. -/
theorem type_captured :
    (∀ t ∈ [Target.csharp ⟨CSharp.defaultSpace⟩, Target.rust ⟨Rust.defaultDerives⟩],
      ∃ f, Family.read "Expr" ["R : T x"] = .ok f ∧
        t.generate "Expr" ["R : T x"] = .ok (t.unit f) ∧
        ∃ use ∈ t.typeUses (t.steps f), use.name = "R" ∧ use.Captured) ∧
    ∃ f, Family.read "V" ["Leaf :"] = .ok f ∧
      (Target.rust ⟨Rust.defaultDerives⟩).generate "V" ["Leaf :"] =
        .ok ((Target.rust ⟨Rust.defaultDerives⟩).unit f) ∧
      ∃ use ∈ (Target.rust ⟨Rust.defaultDerives⟩).typeUses
        ((Target.rust ⟨Rust.defaultDerives⟩).steps f), use.name = "V" ∧ use.Captured := by
  constructor
  · intro t ht
    have hread : Family.read "Expr" ["R : T x"] = .ok ⟨"Expr", [⟨"R", [⟨"T", "x"⟩]⟩]⟩ := by cbv
    have hcheck : ∀ t ∈ [Target.csharp ⟨CSharp.defaultSpace⟩, Target.rust ⟨Rust.defaultDerives⟩],
        t.check ⟨"Expr", [⟨"R", [⟨"T", "x"⟩]⟩]⟩ = .ok () := by decide
    refine ⟨_, hread, generate_eq_ok_iff.mpr ⟨_, hread, hcheck t ht, rfl⟩, ⟨"R", ["R"]⟩, ?_, rfl,
      List.mem_singleton_self "R"⟩
    rw [typeUses_steps t (Family.wellFormed_of_read hread).2]
    exact List.mem_append_left _ (List.mem_singleton_self _)
  · have hread : Family.read "V" ["Leaf :"] = .ok ⟨"V", [⟨"Leaf", []⟩]⟩ := by cbv
    refine ⟨_, hread, generate_eq_ok_iff.mpr ⟨_, hread, by decide, rfl⟩, ⟨"V", ["R", "V"]⟩, ?_,
      rfl, by simp [TypeUse.Captured]⟩
    rw [typeUses_steps _ (Family.wellFormed_of_read hread).2]
    decide

end Target

end VisitorGen
