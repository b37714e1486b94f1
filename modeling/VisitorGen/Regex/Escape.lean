import VisitorGen.Regex.Cursor
import VisitorGen.Regex.Tree

set_option autoImplicit false

/-! # Reading atoms

A character stands for itself, save for those with a meaning of their own. Behind a backslash
stands such a character, a named class, an assertion, or a character given by its number. -/

namespace VisitorGen.Regex

/-! ## Characters by number -/

/-- The value of a hexadecimal digit. -/
def hexValue? (c : Char) : Option Nat :=
  if c.isDigit then some (c.toNat - '0'.toNat)
  else if 'a' ≤ c ∧ c ≤ 'f' then some (c.toNat - 'a'.toNat + 10)
  else if 'A' ≤ c ∧ c ≤ 'F' then some (c.toNat - 'A'.toNat + 10)
  else none

/-- The character with a number, if it has one. -/
def scalar? (n : Nat) : Option Char :=
  if n < 0xD800 ∨ (0xDFFF < n ∧ n < 0x110000) then some (Char.ofNat n) else none

/-- Read hexadecimal digits, as many as given, behind the value of those before. The cursor is left
    behind the last one and the blanks that follow it. -/
def readDigits (value : Nat) : Nat → Reader Nat
  | 0 => return value
  | count + 1 => do
    match (← next?).bind hexValue? with
    | none => fault (← spanNext) .escapeHexInvalidDigit
    | some d =>
      let more ← bumpOver
      if count ≠ 0 && !more then fault (.at (← here)) .escapeUnfinished
      readDigits (16 * value + d) count

/-- Read a character given by a fixed number of digits. -/
def readFixedHex (digits : Nat) : Reader Literal := do
  let start ← here
  let value ← readDigits 0 digits
  let span := ⟨start, ← here⟩
  match scalar? value with
  | none => fault span .escapeHexInvalid
  | some c => return ⟨span, c, digits = 2⟩

/-- Read hexadecimal digits up to a closing brace, behind those before. -/
def readDigitsToBrace (digits : List Nat) : Nat → Reader (List Nat)
  | 0 => return digits
  | steps + 1 => do
    if ← bumpOver then
      match ← next? with
      | some '\x7d' => return digits
      | c =>
        match c.bind hexValue? with
        | none => fault (← spanNext) .escapeHexInvalidDigit
        | some d => readDigitsToBrace (digits ++ [d]) steps
    else return digits

/-- Read a character given by digits between braces. -/
def readBracedHex : Reader Literal := do
  let brace ← here
  let start := (← spanNext).stop
  let digits ← readDigitsToBrace [] (← stepsLeft)
  let stop ← here
  if (← next?).isNone then fault ⟨brace, stop⟩ .escapeUnfinished
  let _ ← bumpOver
  if digits.isEmpty then fault ⟨brace, ← here⟩ .escapeHexEmpty
  match scalar? (digits.foldl (16 * · + ·) 0) with
  | none => fault ⟨start, stop⟩ .escapeHexInvalid
  | some c => return ⟨⟨start, ← here⟩, c, false⟩

/-- Read a character given by its number, from the letter that says how many digits it has. -/
def readHex (letter : Char) : Reader Literal := do
  let digits := if letter = 'x' then 2 else if letter = 'u' then 4 else 8
  if ← bumpOver then
    if (← next?) = some '\x7b' then readBracedHex else readFixedHex digits
  else fault (.at (← here)) .escapeUnfinished

/-! ## Properties -/

/-- The texts before and after the first occurrence of a separator. -/
def splitAt? (separator : List Char) : List Char → Option (List Char × List Char)
  | [] => none
  | c :: cs =>
    if separator.isPrefixOf (c :: cs) then some ([], (c :: cs).drop separator.length)
    else (splitAt? separator cs).map fun (front, back) => (c :: front, back)

/-- The query between the braces of a property. -/
def PropertyQuery.read (text : List Char) : PropertyQuery :=
  match splitAt? ['!', '='] text <|> splitAt? [':'] text <|> splitAt? ['='] text with
  | some (name, value) => .valued (String.ofList name) (String.ofList value)
  | none => .named (String.ofList text)

/-- Read characters up to a closing brace, behind those before. -/
def readToBrace (text : List Char) : Nat → Reader (List Char)
  | 0 => return text
  | steps + 1 => do
    if ← bumpOver then
      match ← next? with
      | some '\x7d' | none => return text
      | some c => readToBrace (text ++ [c]) steps
    else return text

/-- Read a property from its letter. -/
def readProperty (start : Position) (negated : Bool) : Reader NamedClass := do
  if !(← bumpOver) then fault (.at (← here)) .escapeUnfinished
  match ← next? with
  | some '\x7b' =>
    let text ← readToBrace [] (← stepsLeft)
    if (← next?).isNone then fault (.at (← here)) .escapeUnfinished
    let _ ← bump
    return ⟨⟨start, ← here⟩, negated, .property (.read text)⟩
  | some '\\' => fault (← spanNext) .propertyInvalid
  | c =>
    let _ ← bumpOver
    return ⟨⟨start, ← here⟩, negated, .property (.named (String.ofList c.toList))⟩

/-! ## Word boundaries -/

/-- Whether a character may stand in the name of a word boundary. -/
def isBoundaryLetter (c : Char) : Bool :=
  c.isAlpha || c = '-'

/-- Read the name of a word boundary, behind the letters before. -/
def readBoundaryName (name : List Char) : Nat → Reader (List Char)
  | 0 => return name
  | steps + 1 => do
    match ← next? with
    | none => return name
    | some c =>
      if isBoundaryLetter c then
        let _ ← bumpOver
        readBoundaryName (name ++ [c]) steps
      else return name

/-- The word boundary with a name. -/
def boundaryNamed? (name : List Char) : Option Assertion :=
  match String.ofList name with
  | "start" => some .wordStart
  | "end" => some .wordEnd
  | "start-half" => some .wordStartHalf
  | "end-half" => some .wordEndHalf
  | _ => none

/-- Read the kind of a word boundary from an opening brace. The brace may also open a repetition
    count, which is left alone. -/
def readBoundaryKind? (start : Position) : Reader (Option Assertion) := do
  let before ← get
  let brace ← here
  if !(← bumpOver) then fault ⟨start, ← here⟩ .wordBoundaryUnfinished
  let inside ← here
  if (← next?).all isBoundaryLetter then
    let name ← readBoundaryName [] (← stepsLeft)
    let stop ← here
    if (← next?) ≠ some '\x7d' then fault ⟨brace, stop⟩ .wordBoundaryUnclosed
    let _ ← bump
    match boundaryNamed? name with
    | some a => return some a
    | none => fault ⟨inside, stop⟩ .wordBoundaryUnrecognized
  else
    set before
    return none

/-! ## Escapes -/

/-- Whether a character has a meaning of its own in an expression or in a class. -/
def isMeta (c : Char) : Bool :=
  ("\\.+*?()|[]^$#&-~".toList ++ ['\x7b', '\x7d']).contains c

/-- Whether a character stands for itself behind a backslash. -/
def isEscapable (c : Char) : Bool :=
  isMeta c || (c.toNat < 0x80 && !c.isAlphanum && c ≠ '<' && c ≠ '>')

/-- The control character that a letter stands for. -/
def controlNamed? : Char → Option Char
  | 'a' => some (Char.ofNat 0x07)
  | 'f' => some (Char.ofNat 0x0C)
  | 't' => some '\t'
  | 'n' => some '\n'
  | 'r' => some '\r'
  | 'v' => some (Char.ofNat 0x0B)
  | _ => none

/-- The assertion that a character stands for. -/
def assertionNamed? : Char → Option Assertion
  | 'A' => some .textStart
  | 'z' => some .textEnd
  | 'b' => some .wordBoundary
  | 'B' => some .notWordBoundary
  | '<' => some .wordStart
  | '>' => some .wordEnd
  | _ => none

/-- The class that a letter stands for, and whether its complement is meant. -/
def letterClass? : Char → Option (LetterClass × Bool)
  | 'd' => some (.digit, false)
  | 's' => some (.space, false)
  | 'w' => some (.word, false)
  | 'D' => some (.digit, true)
  | 'S' => some (.space, true)
  | 'W' => some (.word, true)
  | _ => none

/-- Read an escape of one character, which has not been read. -/
def readSimpleEscape (start : Position) (c : Char) : Reader Atom := do
  let _ ← bump
  let span := ⟨start, ← here⟩
  if isEscapable c then return .literal ⟨span, c, false⟩
  match controlNamed? c, assertionNamed? c with
  | some control, _ => return .literal ⟨span, control, false⟩
  | none, some assertion =>
    if c = 'b' && (← next?) = some '\x7b' then
      match ← readBoundaryKind? start with
      | some kind => return .assertion ⟨start, ← here⟩ kind
      | none => return .assertion span assertion
    else return .assertion span assertion
  | none, none => fault span .escapeUnrecognized

/-- Read an escape from its backslash. -/
def readEscape : Reader Atom := do
  let start ← here
  if !(← bump) then fault ⟨start, ← here⟩ .escapeUnfinished
  let c := (← next?).getD '\\'
  if c.isDigit then fault ⟨start, (← spanNext).stop⟩ .backreference
  if c = 'x' || c = 'u' || c = 'U' then
    let l ← readHex c
    return .literal { l with span := ⟨start, l.span.stop⟩ }
  if c = 'p' || c = 'P' then return .named (← readProperty start (c = 'P'))
  match letterClass? c with
  | some (letter, negated) =>
    let _ ← bump
    return .named ⟨⟨start, ← here⟩, negated, .letter letter⟩
  | none => readSimpleEscape start c

/-- Read the next atom. -/
def readAtom (c : Char) : Reader Atom := do
  if c = '\\' then readEscape
  else
    let span ← spanNext
    let _ ← bump
    match c with
    | '.' => return .dot span
    | '^' => return .assertion span .lineStart
    | '$' => return .assertion span .lineEnd
    | c => return .literal ⟨span, c, false⟩

end VisitorGen.Regex
