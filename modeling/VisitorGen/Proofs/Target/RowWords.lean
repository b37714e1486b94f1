import VisitorGen.Proofs.Target.Rows

set_option autoImplicit false

/-! # The words of each row

Whatever a row of a unit is read for, it is read by the words at its start and by what stands behind
them. Both are given here for every row that names something, so that a reader of rows has only to
say what it makes of them. The names in a row are words; its types and options are opaque, and where
the words may run into these they are left as they are. -/

namespace VisitorGen

open Text

/-! ## The rows of C# -/

namespace CSharp

theorem words_namespace (space : String) : readWords ("namespace " ++ space).toList =
    ("namespace" :: (readWords space.toList).1, (readWords space.toList).2) := by
  have hrow : ("namespace " ++ space).toList = "namespace".toList ++ ' ' :: space.toList := by simp
  rw [hrow, readWords_cons (by decide)]

theorem words_field (g : Field) : readWords ("public readonly " ++ parameter g ++ ";").toList =
    ("public" :: "readonly" :: (readWords (parameter g ++ ";").toList).1,
      (readWords (parameter g ++ ";").toList).2) := by
  have hrow : ("public readonly " ++ parameter g ++ ";").toList =
      "public".toList ++ ' ' :: ("readonly".toList ++ ' ' :: (parameter g ++ ";").toList) := by simp
  rw [hrow, readWords_cons (by decide), readWords_cons (by decide)]

theorem words_assignment (g : Field) :
    readWords ("this." ++ escape g.name ++ " = " ++ escape g.name ++ ";").toList =
      (["this"], '.' :: ((escape g.name).toList ++ ' ' :: ("= " ++ escape g.name ++ ";").toList)) := by
  have hrow : ("this." ++ escape g.name ++ " = " ++ escape g.name ++ ";").toList = "this".toList ++
      '.' :: ((escape g.name).toList ++ ' ' :: ("= " ++ escape g.name ++ ";").toList) := by simp
  rw [hrow, readWords_last (by decide) (by decide)]

theorem words_return (method : String) :
    readWords ("return visitor." ++ method ++ "(this);").toList =
      (["return", "visitor"], '.' :: (method ++ "(this);").toList) := by
  have hrow : ("return visitor." ++ method ++ "(this);").toList = "return".toList ++ ' ' ::
      ("visitor".toList ++ '.' :: (method ++ "(this);").toList) := by simp
  rw [hrow, readWords_cons (by decide), readWords_last (by decide) (by decide)]

section

variable {name : String} (h : isWord name = true)

include h

theorem words_baseClass : readWords ("public abstract class " ++ name).toList =
    (["public", "abstract", "class", name], []) := by
  have hrow : ("public abstract class " ++ name).toList = "public".toList ++ ' ' ::
      ("abstract".toList ++ ' ' :: ("class".toList ++ ' ' :: name.toList)) := by simp
  rw [hrow, readWords_cons (by decide), readWords_cons (by decide), readWords_cons (by decide),
    readWords_word h]

/-- The word behind the last space is empty where a mark follows. -/
theorem words_class (base : String) : readWords ("public class " ++ name ++ " : " ++ base).toList =
    (["public", "class", name, ""], ':' :: ' ' :: base.toList) := by
  have hrow : ("public class " ++ name ++ " : " ++ base).toList = "public".toList ++ ' ' ::
      ("class".toList ++ ' ' :: (name.toList ++ ' ' :: ("".toList ++ ':' :: ' ' :: base.toList))) := by
    simp
  rw [hrow, readWords_cons (by decide), readWords_cons (by decide), readWords_cons h,
    readWords_last (by decide) (by decide)]

theorem words_constructor (parameters : String) :
    readWords ("public " ++ name ++ "(" ++ parameters ++ ")").toList =
      (["public", name], '(' :: (parameters.toList ++ [')'])) := by
  have hrow : ("public " ++ name ++ "(" ++ parameters ++ ")").toList =
      "public".toList ++ ' ' :: (name.toList ++ '(' :: (parameters.toList ++ [')'])) := by simp
  rw [hrow, readWords_cons (by decide), readWords_last h (by decide)]

end

theorem words_methodDeclaration {f : Family} (hf : f.WellFormed) {v : Variant} (hv : v.WellFormed) :
    readWords (methodDeclaration f v).toList = (["R", dispatchName f.name v.name],
      '(' :: (v.name.toList ++ ' ' :: (parameterName f ++ ");").toList)) := by
  have hmethod : isWord (dispatchName f.name v.name) = true :=
    isWord_of_isIdentifierPart (isIdentifierPart_of_mem_dispatchName hf.name hv.name)
  have hrow : (methodDeclaration f v).toList = "R".toList ++ ' ' ::
      ((dispatchName f.name v.name).toList ++ '(' ::
        (v.name.toList ++ ' ' :: (parameterName f ++ ");").toList)) := by
    unfold methodDeclaration
    simp
  rw [hrow, readWords_cons (by decide), readWords_last hmethod (by decide)]

end CSharp

/-! ## The rows of Rust -/

namespace Rust

theorem words_comment (name : String) : readWords ("// Generated by astgen from the `" ++ name ++
      "` grammar. Do not edit by hand.").toList = ([""], '/' :: ("/ Generated by astgen from the `" ++
        name ++ "` grammar. Do not edit by hand.").toList) := by
  have hrow : ("// Generated by astgen from the `" ++ name ++
      "` grammar. Do not edit by hand.").toList = "".toList ++ '/' ::
        ("/ Generated by astgen from the `" ++ name ++ "` grammar. Do not edit by hand.").toList := by
    simp
  rw [hrow, readWords_last (by decide) (by decide)]

theorem words_derive (derives : String) : readWords ("#[derive(" ++ derives ++ ")]").toList =
    (["#"], '[' :: ("derive(" ++ derives ++ ")]").toList) := by
  have hrow : ("#[derive(" ++ derives ++ ")]").toList =
      "#".toList ++ '[' :: ("derive(" ++ derives ++ ")]").toList := by simp
  rw [hrow, readWords_last (by decide) (by decide)]

theorem words_new (parameters : String) :
    readWords ("pub fn new(" ++ parameters ++ ") -> Self \x7b").toList =
      (["pub", "fn", "new"], '(' :: (parameters.toList ++ ") -> Self \x7b".toList)) := by
  have hrow : ("pub fn new(" ++ parameters ++ ") -> Self \x7b").toList = "pub".toList ++ ' ' ::
      ("fn".toList ++ ' ' :: ("new".toList ++ '(' ::
        (parameters.toList ++ ") -> Self \x7b".toList))) := by simp
  rw [hrow, readWords_cons (by decide), readWords_cons (by decide),
    readWords_last (by decide) (by decide)]

theorem words_construction (v : Variant) :
    ∃ rest, readWords (construction v).toList = (["Self", ""], '\x7b' :: rest) := by
  have hwords : ∀ rest : List Char, readWords ("Self".toList ++ ' ' :: ("".toList ++ '\x7b' :: rest)) =
      (["Self", ""], '\x7b' :: rest) := by
    intro rest
    rw [readWords_cons (by decide), readWords_last (by decide) (by decide)]
  unfold construction
  split
  · exact ⟨['\x7d'], hwords _⟩
  · have hrow : ("Self \x7b " ++ String.intercalate ", " (v.fields.map fun g => escape g.name) ++
        " \x7d").toList = "Self".toList ++ ' ' :: ("".toList ++ '\x7b' :: ' ' ::
          (String.intercalate ", " (v.fields.map fun g => escape g.name) ++ " \x7d").toList) := by simp
    rw [hrow]
    exact ⟨_, hwords _⟩

theorem words_call (method : String) : readWords ("visitor." ++ method ++ "(self)").toList =
    (["visitor"], '.' :: (method ++ "(self)").toList) := by
  have hrow : ("visitor." ++ method ++ "(self)").toList =
      "visitor".toList ++ '.' :: (method ++ "(self)").toList := by simp
  rw [hrow, readWords_last (by decide) (by decide)]

theorem words_conversion (name base : String) :
    readWords ("impl From<" ++ name ++ "> for " ++ base ++ " \x7b").toList =
      (["impl", "From"], '<' :: (name ++ "> for " ++ base ++ " \x7b").toList) := by
  have hrow : ("impl From<" ++ name ++ "> for " ++ base ++ " \x7b").toList = "impl".toList ++ ' ' ::
      ("From".toList ++ '<' :: (name ++ "> for " ++ base ++ " \x7b").toList) := by simp
  rw [hrow, readWords_cons (by decide), readWords_last (by decide) (by decide)]

theorem words_from (name : String) :
    readWords ("fn from(node: " ++ name ++ ") -> Self \x7b").toList =
      (["fn", "from"], '(' :: ("node".toList ++ ':' ::
        (" ".toList ++ (name.toList ++ ')' :: " -> Self \x7b".toList)))) := by
  have hrow : ("fn from(node: " ++ name ++ ") -> Self \x7b").toList = "fn".toList ++ ' ' ::
      ("from".toList ++ '(' :: ("node".toList ++ ':' ::
        (" ".toList ++ (name.toList ++ ')' :: " -> Self \x7b".toList)))) := by simp
  rw [hrow, readWords_cons (by decide), readWords_last (by decide) (by decide)]

/-- The head of `accept` has type parameters before its parameters. -/
theorem words_acceptHead (f : Family) : readWords (acceptHead f).toList = (["pub", "fn", "accept"],
    '<' :: ("R, V: ".toList ++ (f.name.toList ++ "Visitor<R> + ?Sized>".toList) ++
      '(' :: "&self, visitor: &mut V) -> R \x7b".toList)) := by
  have hrow : (acceptHead f).toList = "pub".toList ++ ' ' :: ("fn".toList ++ ' ' ::
      ("accept".toList ++ '<' :: ("R, V: ".toList ++ (f.name.toList ++
        "Visitor<R> + ?Sized>".toList) ++ '(' :: "&self, visitor: &mut V) -> R \x7b".toList))) := by
    unfold acceptHead visitorName
    simp
  rw [hrow, readWords_cons (by decide), readWords_cons (by decide),
    readWords_last (by decide) (by decide)]

section

variable {name : String} (h : isWord name = true)

include h

theorem words_trait : readWords ("pub trait " ++ name ++ "<R> \x7b").toList =
    (["pub", "trait", name], '<' :: "R> \x7b".toList) := by
  have hrow : ("pub trait " ++ name ++ "<R> \x7b").toList =
      "pub".toList ++ ' ' :: ("trait".toList ++ ' ' :: (name.toList ++ '<' :: "R> \x7b".toList)) := by
    simp
  rw [hrow, readWords_cons (by decide), readWords_cons (by decide), readWords_last h (by decide)]

/-- The word behind the last space is empty where a bracket follows. -/
theorem words_enum : readWords ("pub enum " ++ name ++ " \x7b").toList =
    (["pub", "enum", name, ""], ['\x7b']) := by
  have hrow : ("pub enum " ++ name ++ " \x7b").toList = "pub".toList ++ ' ' ::
      ("enum".toList ++ ' ' :: (name.toList ++ ' ' :: ("".toList ++ '\x7b' :: []))) := by simp
  rw [hrow, readWords_cons (by decide), readWords_cons (by decide), readWords_cons h,
    readWords_last (by decide) (by decide)]

theorem words_struct : readWords ("pub struct " ++ name ++ " \x7b").toList =
    (["pub", "struct", name, ""], ['\x7b']) := by
  have hrow : ("pub struct " ++ name ++ " \x7b").toList = "pub".toList ++ ' ' ::
      ("struct".toList ++ ' ' :: (name.toList ++ ' ' :: ("".toList ++ '\x7b' :: []))) := by simp
  rw [hrow, readWords_cons (by decide), readWords_cons (by decide), readWords_cons h,
    readWords_last (by decide) (by decide)]

theorem words_impl : readWords ("impl " ++ name ++ " \x7b").toList =
    (["impl", name, ""], ['\x7b']) := by
  have hrow : ("impl " ++ name ++ " \x7b").toList =
      "impl".toList ++ ' ' :: (name.toList ++ ' ' :: ("".toList ++ '\x7b' :: [])) := by simp
  rw [hrow, readWords_cons (by decide), readWords_cons h, readWords_last (by decide) (by decide)]

/-- A variant of an enum, which holds the struct of its name. -/
theorem words_variant : readWords (name ++ "(" ++ name ++ "),").toList =
    ([name], '(' :: (name.toList ++ "),".toList)) := by
  have hrow : (name ++ "(" ++ name ++ "),").toList =
      name.toList ++ '(' :: (name.toList ++ "),".toList) := by simp
  rw [hrow, readWords_last h (by decide)]

theorem words_path (rest : String) : readWords (name ++ "::" ++ rest).toList =
    ([name], ':' :: ':' :: rest.toList) := by
  have hrow : (name ++ "::" ++ rest).toList = name.toList ++ ':' :: ':' :: rest.toList := by simp
  rw [hrow, readWords_last h (by decide)]

end

theorem words_field {g : Field} (hg : g.WellFormed) :
    readWords ("pub " ++ declaration g ++ ",").toList =
      (["pub", escape g.name], ':' :: ' ' :: (g.type.toList ++ [','])) := by
  have hrow : ("pub " ++ declaration g ++ ",").toList =
      "pub".toList ++ ' ' :: ((escape g.name).toList ++ ':' :: ' ' :: (g.type.toList ++ [','])) := by
    unfold declaration
    simp
  rw [hrow, readWords_cons (by decide),
    readWords_last (isWord_escape (isIdentifierPart_of_mem hg.name)) (by decide)]

theorem isWord_parameterName {f : Family} (hf : f.WellFormed) : isWord (parameterName f) = true :=
  isWord_escape (isIdentifierPart_of_mem_snakeCase (isIdentifierPart_of_mem hf.name))

theorem words_methodDeclaration {f : Family} (hf : f.WellFormed) {v : Variant} (hv : v.WellFormed) :
    readWords (methodDeclaration f v).toList = (["fn", methodName f v],
      '(' :: ("&mut self".toList ++ ',' :: ' ' :: ((parameterName f).toList ++ ':' ::
        (" &".toList ++ (v.name.toList ++ ')' :: " -> R;".toList))))) := by
  have hmethod : isWord (methodName f v) = true := isWord_of_isIdentifierPart
    (isIdentifierPart_of_mem_snakeCase (isIdentifierPart_of_mem_dispatchName hf.name hv.name))
  have hrow : (methodDeclaration f v).toList = "fn".toList ++ ' ' :: ((methodName f v).toList ++
      '(' :: ("&mut self".toList ++ ',' :: ' ' :: ((parameterName f).toList ++ ':' ::
        (" &".toList ++ (v.name.toList ++ ')' :: " -> R;".toList))))) := by
    unfold methodDeclaration
    simp
  rw [hrow, readWords_cons (by decide), readWords_last hmethod (by decide)]

end Rust

end VisitorGen
