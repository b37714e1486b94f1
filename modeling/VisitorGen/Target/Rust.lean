import VisitorGen.Declaration.Basic
import VisitorGen.Declaration.Error
import VisitorGen.Layout
import VisitorGen.Text.SnakeCase

set_option autoImplicit false

/-! # Rust hierarchies

The base is an enum over one struct per variant. Each struct has its own `accept`, and the enum's
`accept` forwards to it, so the enum and its variants dispatch to the same visitor method. Type
names are written as they are; fields and parameters that are keywords get their raw form. -/

namespace VisitorGen.Rust

/-- What the caller chooses. -/
structure Options where
  /-- The derives attached to the base and to every variant. -/
  derives : List String
  deriving DecidableEq, Repr

/-- The derives used when none are given. -/
def defaultDerives : List String := ["Debug", "Clone", "PartialEq"]

/-! ## Names -/

/-- The reserved words that have a raw form. -/
def rawKeywords : List String :=
  ["as", "async", "await", "break", "const", "continue", "dyn", "else", "enum", "extern",
   "false", "fn", "for", "gen", "if", "impl", "in", "let", "loop", "match", "mod", "move",
   "mut", "pub", "ref", "return", "static", "struct", "trait", "true", "type", "unsafe",
   "use", "where", "while", "abstract", "become", "box", "do", "final", "macro", "override",
   "priv", "try", "typeof", "unsized", "virtual", "yield"]

/-- The reserved words of paths, which have no raw form. -/
def pathKeywords : List String := ["self", "Self", "super", "crate"]

/-- Whether a name is a reserved word of paths. -/
def isPathKeyword (name : String) : Bool :=
  pathKeywords.contains name

/-- Whether a name is a reserved word. -/
def isKeyword (name : String) : Bool :=
  rawKeywords.contains name || isPathKeyword name

/-- A name as it is declared: a reserved word takes its raw form if it has one. -/
def escape (name : String) : String :=
  if rawKeywords.contains name then "r#" ++ name else name

/-- The name of the visitor trait. -/
def visitorName (family : Family) : String :=
  family.name ++ "Visitor"

/-- The name of the visitor method for a variant. -/
def methodName (family : Family) (v : Variant) : String :=
  snakeCase (dispatchName family.name v.name)

/-! ## Names that cannot be declared -/

/-- Whether a variant can be declared beside the trait `visitor`. -/
def checkVariant (visitor : String) (v : Variant) : Except FamilyError Unit :=
  if isKeyword v.name then .error (.reserved v.name .typeKeyword)
  else if v.name = visitor then .error (.reserved v.name .visitorTrait)
  else
    match v.fields.find? (fun f => isPathKeyword f.name) with
    | some f => .error (.reserved f.name .fieldKeyword)
    | none => .ok ()

/-- Check variants in order; a fault is reported with the line of its variant. -/
def checkVariants (visitor : String) : List Variant → Except FamilyError Unit
  | [] => .ok ()
  | v :: vs =>
    match checkVariant visitor v with
    | .error e => .error (.inLine v.text e)
    | .ok () => checkVariants visitor vs

/-- Whether a family can be declared. -/
def check (family : Family) : Except FamilyError Unit :=
  if isKeyword family.name then .error (.reserved family.name .typeKeyword)
  else if isPathKeyword (snakeCase family.name) then
    .error (.reserved (snakeCase family.name) .parameterKeyword)
  else checkVariants (visitorName family) family.variants

/-! ## Layout -/

/-- The file of a family. -/
def fileName (family : Family) : String :=
  snakeCase family.name ++ ".rs"

/-- The opening comment. -/
def prelude (family : Family) : List Step :=
  [.line ("// Generated by astgen from the `" ++ family.name ++
     "` grammar. Do not edit by hand."),
   .blank]

/-- The name of the parameter of every visitor method. -/
def parameterName (family : Family) : String :=
  escape (snakeCase family.name)

/-- The declaration of the visitor method for a variant. -/
def methodDeclaration (family : Family) (v : Variant) : String :=
  "fn " ++ methodName family v ++ "(&mut self, " ++ parameterName family ++ ": &" ++ v.name ++
    ") -> R;"

/-- The visitor trait: a method for each variant, in order. -/
def visitor (family : Family) : List Step :=
  [.opening ("pub trait " ++ visitorName family ++ "<R> \x7b")] ++
  family.variants.map (fun v => .line (methodDeclaration family v)) ++
  [.closing "\x7d", .blank]

/-- The attribute that derives traits, if there are any. -/
def deriveLine (o : Options) : List Step :=
  if o.derives.isEmpty then []
  else [.line ("#[derive(" ++ String.intercalate ", " o.derives ++ ")]")]

/-- The head of an `accept` method. -/
def acceptHead (family : Family) : String :=
  "pub fn accept<R, V: " ++ visitorName family ++ "<R> + ?Sized>(&self, visitor: &mut V) -> R \x7b"

/-- The body of the enum's `accept`. A reference to an enum without variants must be followed
    before it can be matched. -/
def forwarding (family : Family) : List Step :=
  if family.variants.isEmpty then [.line "match *self \x7b\x7d"]
  else
    [.opening "match self \x7b"] ++
    family.variants.map (fun v =>
      .line (family.name ++ "::" ++ v.name ++ "(node) => node.accept(visitor),")) ++
    [.closing "\x7d"]

/-- The enum over the variants and its `accept`. -/
def base (o : Options) (family : Family) : List Step :=
  deriveLine o ++
  [.opening ("pub enum " ++ family.name ++ " \x7b")] ++
  family.variants.map (fun v => .line (v.name ++ "(" ++ v.name ++ "),")) ++
  [.closing "\x7d",
   .blank,
   .opening ("impl " ++ family.name ++ " \x7b"),
   .opening (acceptHead family)] ++
  forwarding family ++
  [.closing "\x7d",
   .closing "\x7d",
   .blank]

/-- A field as it is declared, in the struct and as a constructor parameter. -/
def declaration (f : Field) : String :=
  escape f.name ++ ": " ++ f.type

/-- The body of a constructor. -/
def construction (v : Variant) : String :=
  if v.fields.isEmpty then "Self \x7b\x7d"
  else "Self \x7b " ++ String.intercalate ", " (v.fields.map fun f => escape f.name) ++ " \x7d"

/-- The struct of a variant, its constructor, its `accept`, and its conversion to the enum. -/
def variant (o : Options) (family : Family) (v : Variant) : List Step :=
  deriveLine o ++
  [.opening ("pub struct " ++ v.name ++ " \x7b")] ++
  v.fields.map (fun f => .line ("pub " ++ declaration f ++ ",")) ++
  [.closing "\x7d",
   .blank,
   .opening ("impl " ++ v.name ++ " \x7b"),
   .line "#[allow(clippy::too_many_arguments)]",
   .opening ("pub fn new(" ++ String.intercalate ", " (v.fields.map declaration) ++
     ") -> Self \x7b"),
   .line (construction v),
   .closing "\x7d",
   .blank,
   .opening (acceptHead family),
   .line ("visitor." ++ methodName family v ++ "(self)"),
   .closing "\x7d",
   .closing "\x7d",
   .blank,
   .opening ("impl From<" ++ v.name ++ "> for " ++ family.name ++ " \x7b"),
   .opening ("fn from(node: " ++ v.name ++ ") -> Self \x7b"),
   .line (family.name ++ "::" ++ v.name ++ "(node)"),
   .closing "\x7d",
   .closing "\x7d",
   .blank]

end VisitorGen.Rust
