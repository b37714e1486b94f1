import VisitorGen.Text.Blank
import VisitorGen.Text.CaseTable
import VisitorGen.Text.CharSet
import VisitorGen.Text.Property.AgeTable
import VisitorGen.Text.Property.CategoryTable
import VisitorGen.Text.Property.PropertyTable
import VisitorGen.Text.Property.ScriptTable

set_option autoImplicit false

/-! # Properties of characters

The sets of characters that share a general category, a script, an age, or a property that is true
or false. Many of the latter follow from others by rules. -/

namespace VisitorGen.Text

/-- The set with a name in a table. -/
def tabled? (table : List (String × String)) (name : String) : Option CharSet :=
  (table.find? (·.1 = name)).map fun entry => .ofText entry.2

/-! ## Categories -/

/-- The characters of some general categories, given by their short names. -/
def ofCategories (names : List String) : CharSet :=
  .unions (names.filterMap (tabled? categoryTable))

/-- The characters that have been assigned. -/
def assigned : CharSet :=
  ofCategories (categoryTable.map (·.1))

/-- The short names of the categories that a group of them is made of. -/
def categoryMembers? : String → Option (List String)
  | "C" => some ["Cc", "Cf", "Co"]
  | "L" => some ["Lu", "Ll", "Lt", "Lm", "Lo"]
  | "LC" => some ["Lu", "Ll", "Lt"]
  | "M" => some ["Mn", "Mc", "Me"]
  | "N" => some ["Nd", "Nl", "No"]
  | "P" => some ["Pc", "Pd", "Ps", "Pe", "Pi", "Pf", "Po"]
  | "S" => some ["Sm", "Sc", "Sk", "So"]
  | "Z" => some ["Zs", "Zl", "Zp"]
  | _ => none

/-- The characters of a general category or of a group of them, given by its short name. -/
def category? (name : String) : Option CharSet :=
  match name, categoryMembers? name with
  | "Cn", _ => some assigned.compl
  | "C", some members => some ((ofCategories members).union assigned.compl)
  | _, some members => some (ofCategories members)
  | _, none => tabled? categoryTable name

/-! ## Scripts and ages -/

/-- The characters of a script, given by its name. -/
def script? (name : String) : Option CharSet :=
  (scriptTable.find? (·.name = name)).map fun entry => .ofText entry.runs

/-- The characters that belong to a script or to its extensions. -/
def scriptExtension? (name : String) : Option CharSet :=
  if name = "Common" ∨ name = "Inherited" then
    let extended := CharSet.unions (scriptTable.map fun entry => .ofText entry.extension)
    (script? name).map (·.diff extended)
  else
    (scriptTable.find? (·.name = name)).map fun entry =>
      (CharSet.ofText entry.runs).union (.ofText entry.extension)

/-- The characters that a version of the standard has assigned, or one before it. -/
def assignedBy? (version : String) : Option CharSet :=
  match ageTable.findIdx? (·.1 = version) with
  | none => none
  | some i => some (.unions ((ageTable.take (i + 1)).map fun entry => .ofText entry.2))

/-! ## Properties that are true or false -/

/-- The set with a name in the table of listed properties. -/
def listed (name : String) : CharSet :=
  (tabled? propertyTable name).getD .empty

/-- The characters with the property *Lowercase*. -/
def lowercase : CharSet := .ofRanges lowercaseRanges

/-- The characters with the property *Uppercase*. -/
def uppercase : CharSet := .ofRanges uppercaseRanges

/-- The characters with the property *Alphabetic*. -/
def alphabetic : CharSet :=
  .unions [lowercase, uppercase, ofCategories ["Lu", "Ll", "Lt", "Lm", "Lo", "Nl"],
    listed "Other_Alphabetic"]

/-- The characters that extend the one before them. -/
def graphemeExtend : CharSet :=
  (ofCategories ["Mn", "Me"]).union (listed "Other_Grapheme_Extend")

/-- The characters that join their neighbours, or keep them apart. -/
def joinControl : CharSet := .between (Char.ofNat 0x200C) (Char.ofNat 0x200D)

/-- The characters of words. -/
def wordCharacters : CharSet :=
  .unions [alphabetic, ofCategories ["Mn", "Mc", "Me", "Nd", "Pc"], joinControl]

/-- The characters at the start of an identifier. -/
def identifierStart : CharSet :=
  let letters := ofCategories ["Lu", "Ll", "Lt", "Lm", "Lo", "Nl"]
  ((letters.union (listed "Other_ID_Start")).diff (listed "Pattern_Syntax")).diff
    (listed "Pattern_White_Space")

/-- The characters of an identifier behind its start. -/
def identifierContinue : CharSet :=
  .unions [identifierStart, ofCategories ["Mn", "Mc", "Nd", "Pc"], listed "Other_ID_Continue"]

/-- The characters that are not shown where they are not supported. -/
def defaultIgnorable : CharSet :=
  let shown := CharSet.unions
    [.ofText "FFF9-FFFB 13430-1343F", listed "Prepended_Concatenation_Mark", ⟨isBlank, 10⟩]
  (CharSet.unions [listed "Other_Default_Ignorable_Code_Point", ofCategories ["Cf"],
    listed "Variation_Selector"]).diff shown

/-- The characters whose case can be mapped. -/
def caseMapped : CharSet :=
  .unions [listed "Changes_When_Lowercased", listed "Changes_When_Titlecased",
    listed "Changes_When_Uppercased"]

/-- The characters with a property, given by its name. -/
def property? : String → Option CharSet
  | "ASCII_Hex_Digit" => some (.ofText "30-39 41-46 61-66")
  | "Alphabetic" => some alphabetic
  | "Case_Ignorable" => some (.ofRanges caseIgnorableRanges)
  | "Cased" => some (.unions [lowercase, uppercase, ofCategories ["Lt"]])
  | "Changes_When_Casemapped" => some caseMapped
  | "Default_Ignorable_Code_Point" => some defaultIgnorable
  | "Grapheme_Base" =>
    some (assigned.diff ((ofCategories ["Cc", "Cf", "Co", "Zl", "Zp"]).union graphemeExtend))
  | "Grapheme_Extend" => some graphemeExtend
  | "ID_Continue" => some identifierContinue
  | "ID_Start" => some identifierStart
  | "Join_Control" => some joinControl
  | "Lowercase" => some lowercase
  | "Math" => some ((ofCategories ["Sm"]).union (listed "Other_Math"))
  | "Uppercase" => some uppercase
  | "White_Space" => some ⟨isBlank, 10⟩
  | "XID_Continue" => some (identifierContinue.diff (listed "XID_Continue_Excluded"))
  | "XID_Start" => some (identifierStart.diff (listed "XID_Start_Excluded"))
  | "XID_Continue_Excluded" => none
  | "XID_Start_Excluded" => none
  | name => tabled? propertyTable name

/-- Whether a character is alphabetic. -/
def isAlphabetic (c : Char) : Bool :=
  if c.toNat < 0x80 then c.isAlpha else alphabetic.contains c

/-- Whether a character is a number. -/
def isNumeric (c : Char) : Bool :=
  if c.toNat < 0x80 then c.isDigit else (ofCategories ["Nd", "Nl", "No"]).contains c

end VisitorGen.Text
