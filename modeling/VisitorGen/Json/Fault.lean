import VisitorGen.Decimal.FloatText
import VisitorGen.Text.Quoted

set_option autoImplicit false

/-! # Faults in a JSON text

What can be wrong with a grammar file, where in the document it is, and at which line and column.
A column counts the bytes of its line up to the last byte that was read, or up to the byte that
was looked at and not accepted. -/

namespace VisitorGen.Json

/-! ## Causes -/

/-- The shape that a place of the document must have. -/
inductive Shape where
  | map
  | sequence
  | string
  deriving DecidableEq, Repr

/-- The name of a shape, with its article. -/
def Shape.text : Shape → String
  | .map => "a map"
  | .sequence => "a sequence"
  | .string => "a string"

/-- A value that has the wrong shape for its place. -/
inductive Found where
  | null
  | boolean (b : Bool)
  | integer (i : Int)
  | float (x : Float)
  | string (s : String)
  | sequence
  | map

/-- How a value is shown. -/
def Found.text : Found → String
  | .null => "null"
  | .boolean b => "boolean `" ++ (if b then "true" else "false") ++ "`"
  | .integer i => "integer `" ++ i.repr ++ "`"
  | .float x => "floating point `" ++ Decimal.floatText x ++ "`"
  | .string s => "string " ++ Text.quote s
  | .sequence => "sequence"
  | .map => "map"

/-- Why a text is not read. -/
inductive Cause where
  | wrongShape (found : Found) (expected : Shape)
  | endInValue
  | endInList
  | endInObject
  | endInString
  | expectedValue
  | expectedWord
  | expectedColon
  | expectedListEnd
  | expectedObjectEnd
  | keyNotString
  | trailingComma
  | invalidNumber
  | numberOutOfRange
  | invalidEscape
  | brokenSurrogatePair
  | loneSurrogate
  | controlCharacter

/-- The wording of a cause. -/
def Cause.message : Cause → String
  | .wrongShape found expected => "invalid type: " ++ found.text ++ ", expected " ++ expected.text
  | .endInValue => "EOF while parsing a value"
  | .endInList => "EOF while parsing a list"
  | .endInObject => "EOF while parsing an object"
  | .endInString => "EOF while parsing a string"
  | .expectedValue => "expected value"
  | .expectedWord => "expected ident"
  | .expectedColon => "expected `:`"
  | .expectedListEnd => "expected `,` or `]`"
  | .expectedObjectEnd => "expected `,` or `\x7d`"
  | .keyNotString => "key must be a string"
  | .trailingComma => "trailing comma"
  | .invalidNumber => "invalid number"
  | .numberOutOfRange => "number out of range"
  | .invalidEscape => "invalid escape"
  | .brokenSurrogatePair => "unexpected end of hex escape"
  | .loneSurrogate => "lone leading surrogate in hex escape"
  | .controlCharacter => "control character (\\u0000-\\u001F) found while parsing a string"

/-! ## Positions -/

/-- A fault: its cause, the text that was left when it arose, and how many bytes of that text
    count towards its position. -/
structure Fault where
  cause : Cause
  rest : List Char
  ahead : Nat

/-- A fault at the last byte that was read. -/
def Fault.behind (cause : Cause) (rest : List Char) : Fault := ⟨cause, rest, 0⟩

/-- A fault at the next byte, if there is one. -/
def Fault.next (cause : Cause) (rest : List Char) : Fault := ⟨cause, rest, 1⟩

/-- The number of bytes of a text. -/
def byteCount (cs : List Char) : Nat :=
  cs.foldl (fun n c => n + c.utf8Size) 0

/-- The line and column that a number of bytes reach from a line and column. -/
def advance (line column : Nat) : Nat → List Char → Nat × Nat
  | _, [] => (line, column)
  | 0, _ => (line, column)
  | n + 1, c :: cs =>
    if c = '\n' then advance (line + 1) 0 n cs
    else if n < c.utf8Size then (line, column + n + 1)
    else advance line (column + c.utf8Size) (n + 1 - c.utf8Size) cs

/-- The line and column of a fault in a text. -/
def Fault.position (f : Fault) (text : List Char) : Nat × Nat :=
  advance 1 0 (byteCount text - byteCount f.rest + f.ahead) text

/-! ## Places -/

/-- A place in the document. -/
inductive Place where
  /-- The document as a whole, also between a key and its value. -/
  | top
  /-- Where a key, or a comma or the end of the object, should be. -/
  | entry
  /-- The value of a key, outside its elements. -/
  | family (key : List Char)
  /-- An element of the value of a key. -/
  | rule (key : List Char) (index : Nat)
  deriving DecidableEq, Repr

/-- How a place is shown. -/
def Place.text : Place → String
  | .top => "."
  | .entry => "?"
  | .family key => String.ofList key
  | .rule key index => String.ofList key ++ "[" ++ index.repr ++ "]"

/-- Why and where a document is not read. -/
structure ReadError where
  place : Place
  cause : Cause
  line : Nat
  column : Nat

/-- The error for a fault at a place of a text. -/
def ReadError.of (text : List Char) (place : Place) (fault : Fault) : ReadError :=
  let (line, column) := fault.position text
  ⟨place, fault.cause, line, column⟩

/-- The wording of a read error. -/
def ReadError.message (e : ReadError) : String :=
  "at JSON path " ++ e.place.text ++ " → " ++ e.cause.message ++
    " at line " ++ e.line.repr ++ " column " ++ e.column.repr

end VisitorGen.Json
