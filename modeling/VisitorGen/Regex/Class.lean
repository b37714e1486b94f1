import VisitorGen.Regex.Escape

set_option autoImplicit false

/-! # Reading classes between brackets

A class lists characters, ranges and other classes, and combines such lists by operators that bind
to the left. Classes nest, so the reader keeps the open ones on a stack. -/

namespace VisitorGen.Regex

/-! ## Lists of items -/

/-- Items that have been read, with the span from the first to the last. -/
structure ClassItems where
  span : Span
  items : List ClassTree

/-- No items yet. -/
def ClassItems.none (p : Position) : ClassItems := ⟨.at p, []⟩

/-- Items with one more. -/
def ClassItems.push (u : ClassItems) (t : ClassTree) : ClassItems :=
  ⟨⟨if u.items.isEmpty then t.span.start else u.span.start, t.span.stop⟩, u.items ++ [t]⟩

/-- The class that items make up. -/
def ClassItems.close (u : ClassItems) : ClassTree :=
  match u.items with
  | [] => .empty u.span
  | [t] => t
  | ts => .union u.span ts

/-! ## Open classes -/

/-- Something that waits for the class that is being read. -/
inductive ClassFrame where
  /-- An opening bracket, with the items before it. -/
  | opened (before : ClassItems) (span : Span) (negated : Bool)
  /-- An operator, with its left side. -/
  | operator (op : ClassOp) (left : ClassTree)

/-- The span of the innermost opening bracket. -/
def innermost? : List ClassFrame → Option Span
  | [] => none
  | .opened _ span _ :: _ => some span
  | .operator _ _ :: frames => innermost? frames

/-- Close the operator that waits for its right side, if one does. -/
def closeOperator (right : ClassTree) : List ClassFrame → ClassTree × List ClassFrame
  | .operator op left :: frames =>
    (.combined ⟨left.span.start, right.span.stop⟩ op left right, frames)
  | frames => (right, frames)

/-- The fault of a class that is not closed. -/
def faultUnclosed {α : Type} (frames : List ClassFrame) : Reader α := do
  fault ((innermost? frames).getD (.at (← here))) .classUnclosed

/-! ## Parts of a class -/

/-- The ASCII class with a name. -/
def asciiNamed? (name : List Char) : Option AsciiClass :=
  match String.ofList name with
  | "alnum" => some .alnum
  | "alpha" => some .alpha
  | "ascii" => some .ascii
  | "blank" => some .blank
  | "cntrl" => some .cntrl
  | "digit" => some .digit
  | "graph" => some .graph
  | "lower" => some .lower
  | "print" => some .print
  | "punct" => some .punct
  | "space" => some .space
  | "upper" => some .upper
  | "word" => some .word
  | "xdigit" => some .xdigit
  | _ => none

/-- The named ASCII class at the start of a text, such as `[:alpha:]`: its name, whether its
    complement is meant, and its length. -/
def asciiClass? (text : List Char) : Option (AsciiClass × Bool × Nat) :=
  match text with
  | '[' :: ':' :: inside =>
    let negated := inside.head? = some '^'
    let behind := if negated then inside.drop 1 else inside
    let name := behind.takeWhile (· ≠ ':')
    if [':', ']'].isPrefixOf (behind.drop name.length) then
      (asciiNamed? name).map fun c =>
        (c, negated, name.length + if negated then 5 else 4)
    else none
  | _ => none

/-- Read a named ASCII class, if there is one. -/
def readAsciiClass? : Reader (Option ClassTree) := do
  let start ← here
  match asciiClass? (← get).rest with
  | none => return none
  | some (c, negated, length) =>
    modify fun k => (List.range length).foldl (fun k _ => k.bump) k
    return some (.named ⟨⟨start, ← here⟩, negated, .ascii c⟩)

/-- Read one character or escape of a class. -/
def readClassAtom (c : Char) : Reader Atom := do
  if c = '\\' then readEscape
  else
    let span ← spanNext
    let _ ← bump
    return .literal ⟨span, c, false⟩

/-- An atom as an item of a class. -/
def Atom.toClassItem : Atom → Reader ClassTree
  | .literal l => return .literal l
  | .named c => return .named c
  | .dot span => fault span .classEscapeInvalid
  | .assertion span _ => fault span .classEscapeInvalid

/-- An atom as an end of a range. -/
def Atom.toRangeEnd : Atom → Reader Literal
  | .literal l => return l
  | a => fault a.span .classRangeLiteral

/-- Read an item of a class: a character, a named class, or a range between two characters. -/
def readClassItem (frames : List ClassFrame) (c : Char) : Reader ClassTree := do
  let first ← readClassAtom c
  skipBlanks
  if (← next?).isNone then faultUnclosed frames
  let second? := (← get).second?
  if (← next?) ≠ some '-' || second? = some ']' || second? = some '-' then first.toClassItem
  else
    if !(← bumpOver) then faultUnclosed frames
    let last ← readClassAtom ((← next?).getD '-')
    let span := ⟨first.span.start, last.span.stop⟩
    let low ← first.toRangeEnd
    let high ← last.toRangeEnd
    if high.char < low.char then fault span .classRangeInvalid
    return .range span low high

/-- Read dashes at the start of a class, which stand for themselves, behind those before. -/
def readDashes (start : Position) (items : ClassItems) : Nat → Reader ClassItems
  | 0 => return items
  | steps + 1 => do
    if (← next?) = some '-' then
      let dash := ClassTree.literal ⟨← spanNext, '-', false⟩
      if !(← bumpOver) then fault (.at start) .classUnclosed
      readDashes start (items.push dash) steps
    else return items

/-- Read an opening bracket, with a caret and the characters that stand for themselves at the start
    of a class. -/
def readClassStart (before : ClassItems) : Reader (ClassFrame × ClassItems) := do
  let start ← here
  if !(← bumpOver) then fault ⟨start, ← here⟩ .classUnclosed
  let negated := (← next?) = some '^'
  if negated then
    if !(← bumpOver) then fault ⟨start, ← here⟩ .classUnclosed
  let items ← readDashes start (.none (← here)) (← stepsLeft)
  if items.items.isEmpty && (← next?) = some ']' then
    let bracket := ClassTree.literal ⟨← spanNext, ']', false⟩
    if !(← bumpOver) then fault ⟨start, ← here⟩ .classUnclosed
    return (.opened before ⟨start, ← here⟩ negated, items.push bracket)
  else return (.opened before ⟨start, ← here⟩ negated, items)

/-! ## Whole classes -/

/-- The operator that two equal characters stand for. -/
def classOp? : Char → Option ClassOp
  | '&' => some .intersection
  | '-' => some .difference
  | '~' => some .symmetricDifference
  | _ => none

/-- Read on in a class, where `frames` are open and `items` have been read since the last of them. -/
def readClassFrom (frames : List ClassFrame) (items : ClassItems) : Nat → Reader Tree
  | 0 => faultUnclosed frames
  | steps + 1 => do
    skipBlanks
    match ← next? with
    | none => faultUnclosed frames
    | some '[' =>
      let ascii? ← if frames.isEmpty then pure none else readAsciiClass?
      match ascii? with
      | some t => readClassFrom frames (items.push t) steps
      | none =>
        let (frame, inner) ← readClassStart items
        readClassFrom (frame :: frames) inner steps
    | some ']' =>
      match closeOperator items.close frames with
      | (inner, .opened before span negated :: outer) =>
        let _ ← bump
        let span := ⟨span.start, ← here⟩
        if outer.isEmpty then return .bracketed span negated inner
        else readClassFrom outer (before.push (.bracketed span negated inner)) steps
      | (inner, _) => return .bracketed inner.span false inner
    | some c =>
      match if (← get).rest[1]? = some c then classOp? c else none with
      | some op =>
        let _ ← bump
        let _ ← bump
        let (left, outer) := closeOperator items.close frames
        readClassFrom (.operator op left :: outer) (.none (← here)) steps
      | none =>
        let item ← readClassItem frames c
        readClassFrom frames (items.push item) steps

/-- Read a class from its opening bracket. -/
def readClass : Reader Tree := do
  readClassFrom [] (.none (← here)) (← stepsLeft)

end VisitorGen.Regex
