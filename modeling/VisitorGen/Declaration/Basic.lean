set_option autoImplicit false

/-! # Families of variants

A *family* is a closed set of node types: each *variant* is one type, with its fields in
declaration order. A field's type is opaque text of the target language; only names are ever
checked. The text form of a variant is the grammar line that declares it. -/

namespace VisitorGen

/-- A typed, named member of a variant. -/
structure Field where
  type : String
  name : String
  deriving DecidableEq, Repr, Inhabited

/-- One node type; the order of the fields is that of the constructor's parameters. -/
structure Variant where
  name : String
  fields : List Field
  deriving DecidableEq, Repr, Inhabited

/-- A named list of variants; their order is that of the visitor's methods. -/
structure Family where
  name : String
  variants : List Variant
  deriving DecidableEq, Repr, Inhabited

/-! ## Text form -/

/-- A field as it stands in a grammar line: type, space, name. -/
def Field.text (f : Field) : String :=
  f.type ++ " " ++ f.name

/-- Fields separated by a comma and a space. -/
def Field.listText (fs : List Field) : String :=
  String.intercalate ", " (fs.map Field.text)

/-- The grammar line of a variant. Without fields it ends in the colon. -/
def Variant.text (v : Variant) : String :=
  v.name ++ " :" ++ if v.fields.isEmpty then "" else " " ++ Field.listText v.fields

/-- The names of the fields, in declaration order. -/
def Variant.fieldNames (v : Variant) : List String :=
  v.fields.map (·.name)

/-- The names of the variants, in declaration order. -/
def Family.variantNames (f : Family) : List String :=
  f.variants.map (·.name)

/-! ## Dispatch -/

/-- The name of the visitor method for a variant of a family. It follows from the two names alone,
    so a variant can call it without a registry of what the visitor declares. -/
def dispatchName (family variant : String) : String :=
  "Visit" ++ variant ++ family

end VisitorGen
