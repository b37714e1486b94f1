import VisitorGen.Text.PrintTable

set_option autoImplicit false

/-! # Quoted text

A text between double quotes, for messages: control characters have their short escapes, and a
character that does not show as itself is written by its number in hexadecimal. -/

namespace VisitorGen.Text

/-- Whether a character stands for itself in a quoted text: it has a glyph of its own. -/
def isPrintable (c : Char) : Bool :=
  if c.toNat < 0x80 then 0x20 ≤ c.toNat && c.toNat < 0x7F
  else !inRanges glyphExtenderRanges c && !inRanges glyphlessRanges c

/-- The escape of a character by its number, such as `\u` and `7f` in braces. -/
def numericEscape (c : Char) : List Char :=
  ['\\', 'u', '\x7b'] ++ Nat.toDigits 16 c.toNat ++ ['\x7d']

/-- A character as it stands in a quoted text. -/
def quoteChar (c : Char) : List Char :=
  if c = Char.ofNat 0 then ['\\', '0']
  else if c = '\t' then ['\\', 't']
  else if c = '\r' then ['\\', 'r']
  else if c = '\n' then ['\\', 'n']
  else if c = '\\' || c = '"' then ['\\', c]
  else if isPrintable c then [c]
  else numericEscape c

/-- A text between double quotes. -/
def quote (text : String) : String :=
  String.ofList ('"' :: text.toList.flatMap quoteChar ++ ['"'])

end VisitorGen.Text
