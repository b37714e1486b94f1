set_option autoImplicit false

/-! # Byte offsets in a text

A position in a grammar line is the number of bytes before it in the UTF-8 form of the line. -/

namespace VisitorGen.Text

/-- The UTF-8 form of a text. -/
def utf8 (cs : List Char) : List UInt8 :=
  cs.flatMap String.utf8EncodeChar

/-- The characters that start before a byte offset, and the others. The offset is a *boundary*
    when the first part has exactly that many bytes. -/
def cutAtByte : Nat → List Char → List Char × List Char
  | _, [] => ([], [])
  | 0, cs => ([], cs)
  | n + 1, c :: cs =>
    let (front, back) := cutAtByte (n + 1 - c.utf8Size) cs
    (c :: front, back)

end VisitorGen.Text
