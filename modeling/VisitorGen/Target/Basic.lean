import VisitorGen.Target.CSharp
import VisitorGen.Target.Rust

set_option autoImplicit false

/-! # Targets

A target is a language with its options. It says which families it can declare, how a family's
file is called, and which pieces its source text has: a prelude, the visitor, the base, a piece
for each variant, and an epilogue, always in this order. -/

namespace VisitorGen

/-- The languages that can be generated. -/
inductive Language where
  | csharp
  | rust
  deriving DecidableEq, Repr

/-- A language with its options. -/
inductive Target where
  | csharp (options : CSharp.Options)
  | rust (options : Rust.Options)
  deriving DecidableEq, Repr

namespace Target

/-- The language of a target. -/
def language : Target → Language
  | .csharp _ => .csharp
  | .rust _ => .rust

/-- The indentation of one level. -/
def indentUnit : Target → String
  | .csharp _ => "\t"
  | .rust _ => "    "

/-- Whether the family can be declared; the first name that cannot is the error. -/
def check : Target → Family → Except FamilyError Unit
  | .csharp _, family => CSharp.check family
  | .rust _, family => Rust.check family

/-- The file of a family. -/
def fileName : Target → Family → String
  | .csharp _, family => CSharp.fileName family
  | .rust _, family => Rust.fileName family

/-! ## Pieces -/

/-- What stands before the hierarchy. -/
def prelude : Target → Family → List Step
  | .csharp o, family => CSharp.prelude o family
  | .rust _, family => Rust.prelude family

/-- The visitor. -/
def visitor : Target → Family → List Step
  | .csharp _, family => CSharp.visitor family
  | .rust _, family => Rust.visitor family

/-- The base type. -/
def base : Target → Family → List Step
  | .csharp _, _ => CSharp.base
  | .rust o, family => Rust.base o family

/-- The type of a variant. -/
def variant : Target → Family → Variant → List Step
  | .csharp _, family, v => CSharp.variant family v
  | .rust o, family, v => Rust.variant o family v

/-- What stands after the hierarchy. -/
def epilogue : Target → List Step
  | .csharp _ => CSharp.epilogue
  | .rust _ => []

/-- The whole hierarchy of a family. -/
def steps (t : Target) (family : Family) : List Step :=
  t.prelude family ++ t.visitor family ++ t.base family ++
    family.variants.flatMap (t.variant family) ++ t.epilogue

end Target

end VisitorGen
