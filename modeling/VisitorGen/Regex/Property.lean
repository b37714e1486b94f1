import VisitorGen.Regex.Fault
import VisitorGen.Regex.Tree
import VisitorGen.Text.Property.Break

set_option autoImplicit false

/-! # Classes by property

A property is asked for by its name, by its short name, or by the name or the short name of one of
its values. Case, spaces, dashes, underscores and a leading *is* make no difference. Names that the
standard defines but for which there is no class are known, so that they are not taken for a
value. -/

namespace VisitorGen.Regex

open Text

/-! ## Names -/

/-- A name without the differences that do not count. -/
def looseName (name : String) : String :=
  let cs := (name.toList.filter (·.toNat < 0x80)).map Char.toLower
  let behind := if ['i', 's'].isPrefixOf (name.toList.map Char.toLower) then cs.drop 2 else cs
  let bare := behind.filter fun c => c ≠ ' ' && c ≠ '_' && c ≠ '-'
  if bare = ['c'] && behind ≠ cs then "isc" else String.ofList bare

/-- The entry that has a loose name among its names, which stand between spaces. -/
def lookUp? (table : List (String × String)) (loose : String) : Option String :=
  (table.find? fun (name, short) =>
    looseName name = loose || (wordsOf short).any fun w => looseName (String.ofList w) = loose).map
      (·.1)

/-- The properties that the standard defines, with their other names. -/
def propertyNames : List (String × String) :=
  [("ASCII_Hex_Digit", "AHex"), ("Age", ""), ("Alphabetic", "Alpha"), ("Bidi_Class", "bc"),
   ("Bidi_Control", "Bidi_C"), ("Bidi_Mirrored", "Bidi_M"), ("Bidi_Mirroring_Glyph", "bmg"),
   ("Bidi_Paired_Bracket", "bpb"), ("Bidi_Paired_Bracket_Type", "bpt"), ("Block", "blk"),
   ("Canonical_Combining_Class", "ccc"), ("Case_Folding", "cf"), ("Case_Ignorable", "CI"),
   ("Cased", ""), ("Changes_When_Casefolded", "CWCF"), ("Changes_When_Casemapped", "CWCM"),
   ("Changes_When_Lowercased", "CWL"), ("Changes_When_NFKC_Casefolded", "CWKCF"),
   ("Changes_When_Titlecased", "CWT"), ("Changes_When_Uppercased", "CWU"),
   ("Composition_Exclusion", "CE"), ("Dash", ""), ("Decomposition_Mapping", "dm"),
   ("Decomposition_Type", "dt"), ("Default_Ignorable_Code_Point", "DI"), ("Deprecated", "Dep"),
   ("Diacritic", "Dia"), ("East_Asian_Width", "ea"), ("Emoji", ""), ("Emoji_Component", "EComp"),
   ("Emoji_Modifier", "EMod"), ("Emoji_Modifier_Base", "EBase"), ("Emoji_Presentation", "EPres"),
   ("Equivalent_Unified_Ideograph", "EqUIdeo"), ("Expands_On_NFC", "XO_NFC"),
   ("Expands_On_NFD", "XO_NFD"), ("Expands_On_NFKC", "XO_NFKC"), ("Expands_On_NFKD", "XO_NFKD"),
   ("Extended_Pictographic", "ExtPict"), ("Extender", "Ext"), ("FC_NFKC_Closure", "FC_NFKC"),
   ("Full_Composition_Exclusion", "Comp_Ex"), ("General_Category", "gc"),
   ("Grapheme_Base", "Gr_Base"), ("Grapheme_Cluster_Break", "GCB"), ("Grapheme_Extend", "Gr_Ext"),
   ("Grapheme_Link", "Gr_Link"), ("Hangul_Syllable_Type", "hst"), ("Hex_Digit", "Hex"),
   ("Hyphen", ""), ("IDS_Binary_Operator", "IDSB"), ("IDS_Trinary_Operator", "IDST"),
   ("IDS_Unary_Operator", "IDSU"), ("ID_Compat_Math_Continue", ""), ("ID_Compat_Math_Start", ""),
   ("ID_Continue", "IDC"), ("ID_Start", "IDS"), ("ISO_Comment", "isc"), ("Ideographic", "Ideo"),
   ("Indic_Conjunct_Break", "InCB"), ("Indic_Positional_Category", "InPC"),
   ("Indic_Syllabic_Category", "InSC"), ("Jamo_Short_Name", "JSN"), ("Join_Control", "Join_C"),
   ("Joining_Group", "jg"), ("Joining_Type", "jt"), ("Line_Break", "lb"),
   ("Logical_Order_Exception", "LOE"), ("Lowercase", "Lower"), ("Lowercase_Mapping", "lc"),
   ("Math", ""), ("Modifier_Combining_Mark", "MCM"), ("NFC_Quick_Check", "NFC_QC"),
   ("NFD_Quick_Check", "NFD_QC"), ("NFKC_Casefold", "NFKC_CF"), ("NFKC_Quick_Check", "NFKC_QC"),
   ("NFKC_Simple_Casefold", "NFKC_SCF"), ("NFKD_Quick_Check", "NFKD_QC"), ("Name", "na"),
   ("Name_Alias", ""), ("Noncharacter_Code_Point", "NChar"), ("Numeric_Type", "nt"),
   ("Numeric_Value", "nv"), ("Other_Alphabetic", "OAlpha"),
   ("Other_Default_Ignorable_Code_Point", "ODI"), ("Other_Grapheme_Extend", "OGr_Ext"),
   ("Other_ID_Continue", "OIDC"), ("Other_ID_Start", "OIDS"), ("Other_Lowercase", "OLower"),
   ("Other_Math", "OMath"), ("Other_Uppercase", "OUpper"), ("Pattern_Syntax", "Pat_Syn"),
   ("Pattern_White_Space", "Pat_WS"), ("Prepended_Concatenation_Mark", "PCM"),
   ("Quotation_Mark", "QMark"), ("Radical", ""), ("Regional_Indicator", "RI"), ("Script", "sc"),
   ("Script_Extensions", "scx"), ("Sentence_Break", "SB"), ("Sentence_Terminal", "STerm"),
   ("Simple_Case_Folding", "scf sfc"), ("Simple_Lowercase_Mapping", "slc"),
   ("Simple_Titlecase_Mapping", "stc"), ("Simple_Uppercase_Mapping", "suc"),
   ("Soft_Dotted", "SD"), ("Terminal_Punctuation", "Term"), ("Titlecase_Mapping", "tc"),
   ("Unicode_1_Name", "na1"), ("Unified_Ideograph", "UIdeo"), ("Uppercase", "Upper"),
   ("Uppercase_Mapping", "uc"), ("Variation_Selector", "VS"), ("Vertical_Orientation", "vo"),
   ("White_Space", "WSpace space"), ("Word_Break", "WB"), ("XID_Continue", "XIDC"),
   ("XID_Start", "XIDS"), ("kAccountingNumeric", "cjkAccountingNumeric"),
   ("kCompatibilityVariant", "cjkCompatibilityVariant"), ("kIICore", "cjkIICore"),
   ("kIRG_GSource", "cjkIRG_GSource"), ("kIRG_HSource", "cjkIRG_HSource"),
   ("kIRG_JSource", "cjkIRG_JSource"), ("kIRG_KPSource", "cjkIRG_KPSource"),
   ("kIRG_KSource", "cjkIRG_KSource"), ("kIRG_MSource", "cjkIRG_MSource"),
   ("kIRG_SSource", "cjkIRG_SSource"), ("kIRG_TSource", "cjkIRG_TSource"),
   ("kIRG_UKSource", "cjkIRG_UKSource"), ("kIRG_USource", "cjkIRG_USource"),
   ("kIRG_VSource", "cjkIRG_VSource"), ("kOtherNumeric", "cjkOtherNumeric"),
   ("kPrimaryNumeric", "cjkPrimaryNumeric"),
   ("kRSUnicode", "cjkRSUnicode Unicode_Radical_Stroke URS")]

/-- The general categories by their short names, with their other names. -/
def categoryNames : List (String × String) :=
  [("C", "Other"), ("Cc", "Control cntrl"), ("Cf", "Format"), ("Cn", "Unassigned"),
   ("Co", "Private_Use"), ("Cs", "Surrogate"), ("L", "Letter"), ("LC", "Cased_Letter"),
   ("Ll", "Lowercase_Letter"), ("Lm", "Modifier_Letter"), ("Lo", "Other_Letter"),
   ("Lt", "Titlecase_Letter"), ("Lu", "Uppercase_Letter"), ("M", "Mark Combining_Mark"),
   ("Mc", "Spacing_Mark"), ("Me", "Enclosing_Mark"), ("Mn", "Nonspacing_Mark"), ("N", "Number"),
   ("Nd", "Decimal_Number digit"), ("Nl", "Letter_Number"), ("No", "Other_Number"),
   ("P", "Punctuation punct"), ("Pc", "Connector_Punctuation"), ("Pd", "Dash_Punctuation"),
   ("Pe", "Close_Punctuation"), ("Pf", "Final_Punctuation"), ("Pi", "Initial_Punctuation"),
   ("Po", "Other_Punctuation"), ("Ps", "Open_Punctuation"), ("S", "Symbol"),
   ("Sc", "Currency_Symbol"), ("Sk", "Modifier_Symbol"), ("Sm", "Math_Symbol"),
   ("So", "Other_Symbol"), ("Z", "Separator"), ("Zl", "Line_Separator"),
   ("Zp", "Paragraph_Separator"), ("Zs", "Space_Separator")]

/-- The scripts with their other names. Two names stand for no characters of their own. -/
def scriptNames : List (String × String) :=
  scriptTable.map (fun entry => (entry.name, entry.codes)) ++
    [("Katakana_Or_Hiragana", "Hrkt"), ("Unknown", "Zzzz")]

/-- The classes of the boundaries between the characters that a reader sees, with their other
    names. -/
def graphemeBreakNames : List (String × String) :=
  [("CR", ""), ("Control", "CN"), ("E_Base", "EB"), ("E_Base_GAZ", "EBG"), ("E_Modifier", "EM"),
   ("Extend", "EX"), ("Glue_After_Zwj", "GAZ"), ("L", ""), ("LF", ""), ("LV", ""), ("LVT", ""),
   ("Other", "XX"), ("Prepend", "PP"), ("Regional_Indicator", "RI"), ("SpacingMark", "SM"),
   ("T", ""), ("V", ""), ("ZWJ", "")]

/-- The classes of the boundaries between words, with their other names. -/
def wordBreakNames : List (String × String) :=
  [("ALetter", "LE"), ("CR", ""), ("Double_Quote", "DQ"), ("E_Base", "EB"), ("E_Base_GAZ", "EBG"),
   ("E_Modifier", "EM"), ("Extend", ""), ("ExtendNumLet", "EX"), ("Format", "FO"),
   ("Glue_After_Zwj", "GAZ"), ("Hebrew_Letter", "HL"), ("Katakana", "KA"), ("LF", ""),
   ("MidLetter", "ML"), ("MidNum", "MN"), ("MidNumLet", "MB"), ("Newline", "NL"),
   ("Numeric", "NU"), ("Other", "XX"), ("Regional_Indicator", "RI"), ("Single_Quote", "SQ"),
   ("WSegSpace", ""), ("ZWJ", "")]

/-- The classes of the boundaries between sentences, with their other names. -/
def sentenceBreakNames : List (String × String) :=
  [("ATerm", "AT"), ("CR", ""), ("Close", "CL"), ("Extend", "EX"), ("Format", "FO"), ("LF", ""),
   ("Lower", "LO"), ("Numeric", "NU"), ("OLetter", "LE"), ("Other", "XX"), ("SContinue", "SC"),
   ("STerm", "ST"), ("Sep", "SE"), ("Sp", ""), ("Upper", "UP")]

/-- The ages by their numbers, with their other names. -/
def ageNames : List (String × String) :=
  ageTable.map fun (version, _) =>
    (version, "V" ++ String.ofList (version.toList.map fun c => if c = '.' then '_' else c))

/-! ## Classes -/

/-- The characters of a general category, given by a loose name. -/
def categoryNamed? (loose : String) : Option (Except Cause CharSet) :=
  match loose with
  | "any" => some (.ok CharSet.empty.compl)
  | "assigned" => some (.ok assigned)
  | "ascii" => some (.ok (CharSet.empty.compl.ascii))
  | _ =>
    (lookUp? categoryNames loose).map fun name =>
      match category? name with
      | some s => .ok s
      | none => .error .propertyValueNotFound

/-- The characters of a script, given by a loose name. -/
def scriptNamed? (loose : String) : Option (Except Cause CharSet) :=
  (lookUp? scriptNames loose).map fun name =>
    match script? name with
    | some s => .ok s
    | none => .error .propertyValueNotFound

/-- The class that a value of a property has, given by loose names. -/
def valueClass (names : List (String × String)) (find : String → Option CharSet)
    (value : String) : Except Cause CharSet :=
  match (lookUp? names value).bind find with
  | some s => .ok s
  | none => .error .propertyValueNotFound

/-- The characters with a value of a property, given by loose names. -/
def valuedProperty (name value : String) : Except Cause CharSet :=
  match lookUp? propertyNames name with
  | none => .error .propertyNotFound
  | some "General_Category" => (categoryNamed? value).getD (.error .propertyValueNotFound)
  | some "Script" => (scriptNamed? value).getD (.error .propertyValueNotFound)
  | some "Script_Extensions" => valueClass scriptNames scriptExtension? value
  | some "Age" => valueClass ageNames assignedBy? value
  | some "Grapheme_Cluster_Break" =>
    valueClass graphemeBreakNames graphemeClasses.class? value
  | some "Word_Break" => valueClass wordBreakNames wordClasses.class? value
  | some "Sentence_Break" => valueClass sentenceBreakNames sentenceClasses.class? value
  | some _ => .error .propertyValueNotFound

/-- The characters with a property, given by a loose name. Three names are short both for a
    property and for a category, which is meant. -/
def namedProperty (name : String) : Except Cause CharSet :=
  let category := (categoryNamed? name <|> scriptNamed? name).getD (.error .propertyNotFound)
  if name = "cf" ∨ name = "sc" ∨ name = "lc" then category
  else
    match lookUp? propertyNames name with
    | some property =>
      match property? property with
      | some s => .ok s
      | none => .error .propertyNotFound
    | none => category

/-- The characters that a query asks for. -/
def PropertyQuery.resolve : PropertyQuery → Except Cause CharSet
  | .named name => namedProperty (looseName name)
  | .valued name value => valuedProperty (looseName name) (looseName value)

end VisitorGen.Regex
