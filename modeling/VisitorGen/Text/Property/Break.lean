import VisitorGen.Text.Property.Basic

set_option autoImplicit false

/-! # Boundaries in text

The classes of characters by which a text is divided into the characters that a reader sees, into
words, and into sentences. Every character is in exactly one class of each kind; those that no
other class holds are in the class *Other*. -/

namespace VisitorGen.Text

/-- A kind of boundary: its classes, by name. -/
abbrev BreakClasses := List (String × CharSet)

/-- The class with a name. -/
def BreakClasses.class? (classes : BreakClasses) (name : String) : Option CharSet :=
  if name = "Other" then some (CharSet.unions (classes.map (·.2))).compl
  else (classes.find? (·.1 = name)).map (·.2)

/-- The line ends, which are classes of their own in each kind. -/
def lineEndClasses : BreakClasses :=
  [("CR", .single '\r'), ("LF", .single '\n')]

/-- The format controls that are no part of a word or of a sentence. -/
def formatControls : CharSet :=
  (ofCategories ["Cf"]).diff (.ofText "200B-200D E0020-E007F")

/-! ## Characters that a reader sees -/

/-- The Hangul syllables without a final consonant; those with one lie between them. -/
def openSyllables : CharSet :=
  ⟨fun c => 0xAC00 ≤ c.toNat && c.toNat ≤ 0xD7A3 && (c.toNat - 0xAC00) % 28 == 0, 399⟩

/-- The characters that stand before the one that they belong to. -/
def prependedMarks : CharSet :=
  .ofText "600-605 6DD 70F 890-891 8E2 D4E 110BD 110CD 111C2-111C3 113D1 1193F 11941 11A3A
    11A84-11A89 11D46 11F02"

/-- The classes of the boundaries between the characters that a reader sees. -/
def graphemeClasses : BreakClasses :=
  let joiner := CharSet.single (Char.ofNat 0x200D)
  let extend := (graphemeExtend.union (listed "Emoji_Modifier")).diff joiner
  let syllables := CharSet.ofText "AC00-D7A3"
  let independent := CharSet.ofText
    "102B-102C 1038 1062-1064 1067-106D 1083 1087-108C 108F 109A-109C 1A61 1A63-1A64 AA7B AA7D
     11720-11721"
  lineEndClasses ++
  [("Control",
     ((ofCategories ["Cc", "Cf", "Zl", "Zp"]).union (defaultIgnorable.diff assigned)).diff
       (.unions [prependedMarks, joinControl, .ofText "A D E0020-E007F"])),
   ("Extend", extend),
   ("Prepend", prependedMarks),
   ("SpacingMark",
     ((ofCategories ["Mc"]).union (.ofText "E33 EB3")).diff (extend.union independent)),
   ("L", .ofText "1100-115F A960-A97C"),
   ("V", .ofText "1160-11A7 D7B0-D7C6 16D63 16D67-16D6A"),
   ("T", .ofText "11A8-11FF D7CB-D7FB"),
   ("LV", openSyllables),
   ("LVT", syllables.diff openSyllables),
   ("Regional_Indicator", listed "Regional_Indicator"),
   ("ZWJ", joiner)]

/-! ## Words -/

/-- The Hebrew letters. -/
def hebrewLetters : CharSet :=
  ((script? "Hebrew").getD .empty).inter (ofCategories ["Lo"])

/-- The Katakana of words, with the marks that go with them. -/
def katakanaOfWords : CharSet :=
  ((script? "Katakana").getD .empty).union (.ofText "3031-3035 309B-309C 30A0 30FC FF70")

/-- The letters of scripts that write words without spaces between them. -/
def unspacedLetters : CharSet :=
  .unions (["Thai", "Lao", "Myanmar", "Khmer", "Tai_Le", "New_Tai_Lue", "Tai_Tham", "Tai_Viet",
    "Ahom", "Hiragana"].filterMap script?)

/-- The letters of words. -/
def wordLetters : CharSet :=
  let letters := alphabetic.union (.ofText
    "2C2-2C5 2D2-2D7 2DE-2DF 2E5-2EB 2ED 2EF-2FF 55A-55C 55E 58A 5F3 A708-A716 A720-A721
     A789-A78A AB5B")
  letters.diff (.unions [listed "Ideographic", katakanaOfWords, unspacedLetters, hebrewLetters,
    graphemeExtend, ofCategories ["Mc"]])

/-- The classes of the boundaries between words. -/
def wordClasses : BreakClasses :=
  lineEndClasses ++
  [("Double_Quote", .single '"'),
   ("Single_Quote", .single '\''),
   ("ExtendNumLet", (ofCategories ["Pc"]).union (.single (Char.ofNat 0x202F))),
   ("Extend",
     (CharSet.unions [graphemeExtend, ofCategories ["Mc"], listed "Emoji_Modifier"]).diff
       (.single (Char.ofNat 0x200D))),
   ("Format", formatControls),
   ("Hebrew_Letter", hebrewLetters),
   ("Katakana", katakanaOfWords),
   ("ALetter", wordLetters),
   ("MidNumLet", .ofText "2E 2018-2019 2024 FE52 FF07 FF0E"),
   ("MidLetter", .ofText "3A B7 387 55F 5F4 2027 FE13 FE55 FF1A"),
   ("MidNum", .ofText "2C 3B 37E 589 60C-60D 66C 7F8 2044 FE10 FE14 FE50 FE54 FF0C FF1B"),
   ("Newline", .ofText "B-C 85 2028-2029"),
   ("Numeric", (ofCategories ["Nd"]).union (.single (Char.ofNat 0x66B))),
   ("Regional_Indicator", listed "Regional_Indicator"),
   ("WSegSpace", .ofText "20 1680 2000-2006 2008-200A 205F 3000"),
   ("ZWJ", .single (Char.ofNat 0x200D))]

/-! ## Sentences -/

/-- The characters that end a sentence unless a small letter follows. -/
def sentenceDots : CharSet := .ofText "2E 2024 FE52 FF0E"

/-- The classes of the boundaries between sentences. -/
def sentenceClasses : BreakClasses :=
  let extend := CharSet.unions [graphemeExtend, ofCategories ["Mc"], joinControl]
  let lower := lowercase.diff (graphemeExtend.union (.ofText "10D0-10FA 10FD-10FF"))
  let upper := (uppercase.union (ofCategories ["Lt"])).diff (.ofText "1C90-1CBA 1CBD-1CBF")
  lineEndClasses ++
  [("ATerm", sentenceDots),
   ("Close",
     (ofCategories ["Ps", "Pe", "Pi", "Pf"]).union
       (.ofText "22 27 275B-2760 2E00-2E01 2E06-2E08 2E0B 1F676-1F678")),
   ("Extend", extend),
   ("Format", formatControls.union (.single (Char.ofNat 0x200B))),
   ("Lower", lower),
   ("Upper", upper),
   ("OLetter",
     (alphabetic.union (.single (Char.ofNat 0x5F3))).diff (.unions [lower, upper, extend])),
   ("Numeric", (ofCategories ["Nd"]).union (.ofText "66B-66C")),
   ("SContinue",
     .ofText "2C-2D 3A 55D 60C-60D 7F8 1802 1808 2013-2014 3001 FE10-FE11 FE13 FE31-FE32
       FE50-FE51 FE55 FE58 FE63 FF0C-FF0D FF1A FF64"),
   ("Sep", .ofText "85 2028-2029"),
   ("Sp", .ofText "9 B-C 20 A0 1680 2000-200A 202F 205F 3000"),
   ("STerm", (listed "Sentence_Terminal").diff sentenceDots)]

end VisitorGen.Text
