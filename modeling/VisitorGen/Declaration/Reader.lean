import VisitorGen.Declaration.Basic
import VisitorGen.Declaration.Error
import VisitorGen.Declaration.Brackets
import VisitorGen.Declaration.Separator
import VisitorGen.Text.Blank
import VisitorGen.Text.Identifier

set_option autoImplicit false

/-! # Reading grammar lines

`Name : Type name, Type name` declares a variant. The reader trims blanks freely, keeps types
verbatim between their trimmed ends, and reports the first fault from the left. -/

namespace VisitorGen

open Text

/-! ## Fields -/

/-- Read one field: the last word is its name, everything before it the type. -/
def Field.read (token : List Char) : Except FamilyError Field :=
  let token := trim token
  match splitLastBlank? token with
  | none => .error (.missingFieldName (String.ofList token))
  | some (type, name) =>
    if isIdentifier name then .ok ⟨String.ofList (trimEnd type), String.ofList name⟩
    else .error (.invalidIdentifier (String.ofList name))

/-- Read fields from left to right up to the first fault. -/
def Field.readEach : List (List Char) → Except FamilyError (List Field)
  | [] => .ok []
  | token :: tokens =>
    match Field.read token with
    | .error e => .error e
    | .ok f =>
      match Field.readEach tokens with
      | .error e => .error e
      | .ok fs => .ok (f :: fs)

/-- Read a comma-separated list of fields; a blank text is the empty list. -/
def Field.readList (list : List Char) : Except FamilyError (List Field) :=
  if (trim list).isEmpty then .ok [] else Field.readEach (splitAtCommas list)

/-! ## Variants -/

/-- Read one grammar line. -/
def Variant.read (line : List Char) : Except FamilyError Variant :=
  let line := trim line
  match separatorOffset? line with
  | none => .error (.missingSeparator (String.ofList line))
  | some offset =>
    let (front, back) := cutAtByte offset line
    let name := trim front
    if isIdentifier name then
      match Field.readList (back.drop 1) with
      | .error e => .error (.inLine (String.ofList line) e)
      | .ok fields => .ok ⟨String.ofList name, fields⟩
    else .error (.inLine (String.ofList line) (.invalidIdentifier (String.ofList name)))

/-! ## Families -/

/-- Read the lines of a family after variants with the names `seen`, up to the first fault: a line
    that cannot be read, a variant named like the family, or a name seen before. -/
def Variant.readLines (family : String) (seen : List String) :
    List String → Except FamilyError (List Variant)
  | [] => .ok []
  | line :: lines =>
    match Variant.read line.toList with
    | .error e => .error e
    | .ok v =>
      if v.name = family then .error (.variantNamedAfterFamily family)
      else if v.name ∈ seen then .error (.duplicateVariant family v.name)
      else
        match Variant.readLines family (v.name :: seen) lines with
        | .error e => .error e
        | .ok vs => .ok (v :: vs)

/-- Read a family from its name and its lines. -/
def Family.read (name : String) (lines : List String) : Except FamilyError Family :=
  if isIdentifier name.toList then
    match Variant.readLines name [] lines with
    | .error e => .error e
    | .ok variants => .ok ⟨name, variants⟩
  else .error (.invalidIdentifier name)

end VisitorGen
