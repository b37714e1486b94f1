set_option autoImplicit false

/-! # What can be wrong with a grammar

The causes for which a family is refused, by the reader of grammar lines or by a target language,
and the wording of each. A cause that concerns one line of several is wrapped with that line. -/

namespace VisitorGen

/-- Why a well-formed name cannot be declared in the generated code. -/
inductive Clash where
  /-- A C# keyword in place of a class name. -/
  | classKeyword
  /-- A nested class named like a member of the base class. -/
  | baseMember
  /-- A field named like the class that declares it. -/
  | enclosingClass
  /-- A field named like the dispatch method. -/
  | dispatchMethod
  /-- A Rust keyword in place of a type name. -/
  | typeKeyword
  /-- A visitor parameter whose name has no escaped form. -/
  | parameterKeyword
  /-- A variant named like the visitor trait. -/
  | visitorTrait
  /-- A field whose name has no escaped form. -/
  | fieldKeyword
  deriving DecidableEq, Repr

/-- The wording of a clash. -/
def Clash.message : Clash → String
  | .classKeyword => "C# keyword used as a class name"
  | .baseMember => "clashes with a member of the base class"
  | .enclosingClass => "field named after its own class"
  | .dispatchMethod => "clashes with the dispatch method"
  | .typeKeyword => "Rust keyword used as a type name"
  | .parameterKeyword => "visitor parameter cannot be a raw identifier"
  | .visitorTrait => "clashes with the visitor trait"
  | .fieldKeyword => "field cannot be a raw identifier"

/-- Why a family is refused. -/
inductive FamilyError where
  /-- A line without a lone colon. -/
  | missingSeparator (line : String)
  /-- A field of a single word. -/
  | missingFieldName (token : String)
  /-- A name that is no identifier. -/
  | invalidIdentifier (name : String)
  /-- A variant declared by two lines. -/
  | duplicateVariant (family variant : String)
  /-- A variant with the name of its family. -/
  | variantNamedAfterFamily (family : String)
  /-- A name that the target language cannot declare. -/
  | reserved (name : String) (clash : Clash)
  /-- A cause found in one line. -/
  | inLine (line : String) (cause : FamilyError)
  deriving DecidableEq, Repr

/-- The wording of a grammar error. -/
def FamilyError.message : FamilyError → String
  | .missingSeparator line =>
    "grammar line `" ++ line ++ "` has no top-level `:` between the variant name and its fields"
  | .missingFieldName token =>
    "field `" ++ token ++ "` has no whitespace between its type and its name"
  | .invalidIdentifier name => "`" ++ name ++ "` is not a legal identifier"
  | .duplicateVariant family variant =>
    "variant `" ++ variant ++ "` is declared more than once in family `" ++ family ++ "`"
  | .variantNamedAfterFamily family =>
    "variant `" ++ family ++ "` has the same name as its family"
  | .reserved name clash =>
    "`" ++ name ++ "` is reserved in the generated code: " ++ clash.message
  | .inLine line cause => "in grammar line `" ++ line ++ "`: " ++ cause.message

end VisitorGen
