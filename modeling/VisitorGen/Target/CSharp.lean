import VisitorGen.Declaration.Basic
import VisitorGen.Declaration.Error
import VisitorGen.Layout
import VisitorGen.Text.SnakeCase

set_option autoImplicit false

/-! # C# hierarchies

The visitor interface and every variant class are nested in the abstract base class, inside one
namespace: callers write `Expr.IVisitor<object>` and `new Expr.Binary(left, op, right)`. A name
that is a keyword is escaped by `@` where that is possible. -/

namespace VisitorGen.CSharp

/-- What the caller chooses. -/
structure Options where
  /-- The namespace around the hierarchy. -/
  space : String
  deriving DecidableEq, Repr

/-- The namespace used when none is given. -/
def defaultSpace : String := "cslox"

/-- The namespaces that every unit imports. -/
def usings : List String := ["System", "System.Collections.Generic", "System.Text"]

/-- The name of the visitor interface. -/
def visitorName : String := "IVisitor"

/-- The name of the dispatch method. -/
def acceptName : String := "Accept"

/-! ## Names -/

/-- The reserved words of C#. -/
def keywords : List String :=
  ["abstract", "as", "base", "bool", "break", "byte", "case", "catch", "char", "checked",
   "class", "const", "continue", "decimal", "default", "delegate", "do", "double", "else",
   "enum", "event", "explicit", "extern", "false", "finally", "fixed", "float", "for",
   "foreach", "goto", "if", "implicit", "in", "int", "interface", "internal", "is", "lock",
   "long", "namespace", "new", "null", "object", "operator", "out", "override", "params",
   "private", "protected", "public", "readonly", "ref", "return", "sbyte", "sealed", "short",
   "sizeof", "stackalloc", "static", "string", "struct", "switch", "this", "throw", "true",
   "try", "typeof", "uint", "ulong", "unchecked", "unsafe", "ushort", "using", "virtual",
   "void", "volatile", "while"]

/-- Whether a name is a reserved word. -/
def isKeyword (name : String) : Bool :=
  keywords.contains name

/-- A name as it is declared: a reserved word is escaped. -/
def escape (name : String) : String :=
  if isKeyword name then "@" ++ name else name

/-! ## Names that cannot be declared -/

/-- The first field of a class that shares a name with the class or with the dispatch method. -/
def checkFields (className : String) : List Field → Except FamilyError Unit
  | [] => .ok ()
  | f :: fs =>
    if f.name = className then .error (.reserved f.name .enclosingClass)
    else if f.name = acceptName then .error (.reserved f.name .dispatchMethod)
    else checkFields className fs

/-- Whether a variant can be declared as a nested class. -/
def checkVariant (v : Variant) : Except FamilyError Unit :=
  if isKeyword v.name then .error (.reserved v.name .classKeyword)
  else if v.name = visitorName ∨ v.name = acceptName then .error (.reserved v.name .baseMember)
  else checkFields v.name v.fields

/-- Check variants in order; a fault is reported with the line of its variant. -/
def checkVariants : List Variant → Except FamilyError Unit
  | [] => .ok ()
  | v :: vs =>
    match checkVariant v with
    | .error e => .error (.inLine v.text e)
    | .ok () => checkVariants vs

/-- Whether a family can be declared. -/
def check (family : Family) : Except FamilyError Unit :=
  if isKeyword family.name then .error (.reserved family.name .classKeyword)
  else checkVariants family.variants

/-! ## Layout -/

/-- The file of a family. -/
def fileName (family : Family) : String :=
  family.name ++ ".cs"

/-- The imports, and the openings of the namespace and of the base class. -/
def prelude (o : Options) (family : Family) : List Step :=
  usings.map (fun u => .line ("using " ++ u ++ ";")) ++
  [.blank,
   .line ("namespace " ++ o.space),
   .opening "\x7b",
   .line ("public abstract class " ++ family.name),
   .opening "\x7b"]

/-- The name of the parameter of every visitor method. -/
def parameterName (family : Family) : String :=
  escape (lowerCase family.name)

/-- The declaration of the visitor method for a variant. -/
def methodDeclaration (family : Family) (v : Variant) : String :=
  "R " ++ dispatchName family.name v.name ++ "(" ++ v.name ++ " " ++ parameterName family ++ ");"

/-- The visitor interface: a method for each variant, in order. -/
def visitor (family : Family) : List Step :=
  [.line ("public interface " ++ visitorName ++ "<R>"),
   .opening "\x7b"] ++
  family.variants.map (fun v => .line (methodDeclaration family v)) ++
  [.closing "\x7d"]

/-- The abstract dispatch method of the base class. -/
def base : List Step :=
  [.line ("public abstract R " ++ acceptName ++ "<R>(" ++ visitorName ++ "<R> visitor);")]

/-- A field as a constructor parameter. -/
def parameter (f : Field) : String :=
  f.type ++ " " ++ escape f.name

/-- The class of a variant: its fields, its constructor, and its dispatch to the visitor. -/
def variant (family : Family) (v : Variant) : List Step :=
  [.line ("public class " ++ v.name ++ " : " ++ family.name),
   .opening "\x7b"] ++
  v.fields.map (fun f => .line ("public readonly " ++ parameter f ++ ";")) ++
  [.line ("public " ++ v.name ++ "(" ++ String.intercalate ", " (v.fields.map parameter) ++ ")"),
   .opening "\x7b"] ++
  v.fields.map (fun f => .line ("this." ++ escape f.name ++ " = " ++ escape f.name ++ ";")) ++
  [.closing "\x7d",
   .line ("public override R " ++ acceptName ++ "<R>(" ++ visitorName ++ "<R> visitor)"),
   .opening "\x7b",
   .line ("return visitor." ++ dispatchName family.name v.name ++ "(this);"),
   .closing "\x7d",
   .closing "\x7d",
   .blank]

/-- The ends of the base class and of the namespace. -/
def epilogue : List Step :=
  [.closing "\x7d", .closing "\x7d"]

end VisitorGen.CSharp
