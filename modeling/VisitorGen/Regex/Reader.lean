import VisitorGen.Regex.Class
import VisitorGen.Text.Property.Basic

set_option autoImplicit false

/-! # Reading expressions

An expression is a choice between chains of parts. Groups nest, so the reader keeps the open ones
on a stack, each with the chain that it is a part of. -/

namespace VisitorGen.Regex

/-! ## Chains and open groups -/

/-- Parts that have been read, from a position on. -/
structure Chain where
  start : Position
  parts : List Tree

/-- The expression that a chain makes up, which ends at a position. -/
def Chain.close (chain : Chain) (stop : Position) : Tree :=
  match chain.parts with
  | [] => .empty ⟨chain.start, stop⟩
  | [t] => t
  | ts => .chain ⟨chain.start, stop⟩ ts

/-- A chain with one more part. -/
def Chain.push (chain : Chain) (t : Tree) : Chain :=
  { chain with parts := chain.parts ++ [t] }

/-- A group that is open: the chain before it, its opening parenthesis, its flags, and whether blanks
    were skipped before it. -/
structure OpenGroup where
  before : Chain
  span : Span
  marks : List FlagMark
  captures : Bool
  verbose : Bool

/-- Something that waits for the chain that is being read. -/
inductive Frame where
  | group (g : OpenGroup)
  /-- A choice, with its branches so far. -/
  | choice (start : Position) (branches : List Tree)

/-- The expression of the innermost group, which ends at a position, and the frames around it. -/
def closeChoice (chain : Chain) (stop : Position) : List Frame → Tree × List Frame
  | .choice start branches :: frames =>
    (.choice ⟨start, stop⟩ (branches ++ [chain.close stop]), frames)
  | frames => (chain.close stop, frames)

/-- The frames with one more branch of the innermost choice, which ends at a position. -/
def addBranch (chain : Chain) (stop : Position) : List Frame → List Frame
  | .choice start branches :: frames => .choice start (branches ++ [chain.close stop]) :: frames
  | frames => .choice chain.start [chain.close stop] :: frames

/-! ## Flags -/

/-- The flag of a letter. -/
def flagNamed? : Char → Option Flag
  | 'i' => some .ignoreCase
  | 'm' => some .multiLine
  | 's' => some .dotMatchesLineEnd
  | 'U' => some .swapGreed
  | 'u' => some .unicode
  | 'R' => some .crlf
  | 'x' => some .verbose
  | _ => none

/-- Read flags up to a colon or a closing parenthesis, behind those before. -/
def readFlagsFrom (marks : List FlagMark) : Nat → Reader (List FlagMark)
  | 0 => return marks
  | steps + 1 => do
    match ← next? with
    | none | some ':' | some ')' =>
      match marks.getLast? with
      | some ⟨span, none⟩ => fault span .flagDanglingNegation
      | _ => return marks
    | some c =>
      let span ← spanNext
      let flag := flagNamed? c
      if c ≠ '-' && flag.isNone then fault span .flagUnrecognized
      match marks.find? (·.flag = flag) with
      | some earlier =>
        faultAfter span (if flag.isNone then .flagRepeatedNegation else .flagDuplicate)
          earlier.span
      | none =>
        if !(← bump) then fault (.at (← here)) .flagUnfinished
        readFlagsFrom (marks ++ [⟨span, flag⟩]) steps

/-- Read flags up to a colon or a closing parenthesis. -/
def readFlags : Reader (List FlagMark) := do
  readFlagsFrom [] (← stepsLeft)

/-! ## Groups -/

/-- Whether a character may stand in the name of a group, at its start or further on. -/
def isNameCharacter (first : Bool) (c : Char) : Bool :=
  c = '_' || Text.isAlphabetic c ||
    (!first && (Text.isNumeric c || c = '.' || c = '[' || c = ']'))

/-- Read the letters of a group's name up to its closing bracket, behind those before. -/
def readNameFrom (name : List Char) : Nat → Reader (List Char)
  | 0 => return name
  | steps + 1 => do
    match ← next? with
    | none | some '>' => return name
    | some c =>
      if !isNameCharacter name.isEmpty c then fault (← spanNext) .groupNameInvalid
      let _ ← bump
      readNameFrom (name ++ [c]) steps

/-- Read the name of a group, which no other group may have, and the bracket that ends it. -/
def readGroupName : Reader Unit := do
  let start ← here
  let name ← readNameFrom [] (← stepsLeft)
  let stop ← here
  if (← next?).isNone then fault (.at stop) .groupNameUnfinished
  let _ ← bump
  if name.isEmpty then fault (.at start) .groupNameEmpty
  match (← get).names.find? (·.1 = name) with
  | some (_, earlier) => faultAfter ⟨start, stop⟩ .groupNameDuplicate earlier
  | none => modify fun k => { k with names := (name, ⟨start, stop⟩) :: k.names }

/-- What an opening parenthesis stands for. -/
inductive Opening where
  /-- A setting of flags, which is closed already. -/
  | flags (span : Span) (marks : List FlagMark)
  | group (span : Span) (marks : List FlagMark) (captures : Bool)

/-- Read from an opening parenthesis up to the content of the group. -/
def readOpening : Reader Opening := do
  let span ← spanNext
  let _ ← bump
  skipBlanks
  let inside ← here
  if (← bumpIf "?=") || (← bumpIf "?!") || (← bumpIf "?<=") || (← bumpIf "?<!") then
    fault ⟨span.start, ← here⟩ .lookAround
  if (← bumpIf "?P<") || (← bumpIf "?<") then
    readGroupName
    return .group span [] true
  else if ← bumpIf "?" then
    if (← next?).isNone then fault span .groupUnclosed
    let marks ← readFlags
    let last ← next?
    let _ ← bump
    if last = some ':' then return .group span marks false
    else if marks.isEmpty then fault (.at inside) .repetitionMissing
    else return .flags ⟨span.start, ← here⟩ marks
  else return .group span [] true

/-! ## Repetitions -/

/-- The last part of a chain, which is to be repeated, and the chain before it. -/
def takeRepeated (chain : Chain) : Reader (Tree × Chain) := do
  match chain.parts.getLast? with
  | some t =>
    if t.isRepeatable then return (t, { chain with parts := chain.parts.dropLast })
    else fault (.at (← here)) .repetitionMissing
  | none => fault (.at (← here)) .repetitionMissing

/-- Read a repetition that is written by one character. -/
def readRepetition (chain : Chain) (least : Nat) (most : Option Nat) : Reader Chain := do
  let (t, before) ← takeRepeated chain
  if (← bump) && (← next?) = some '?' then
    let _ ← bump
  return before.push (.repetition ⟨t.span.start, ← here⟩ least most t)

/-- Read blanks, in any mode. -/
def readPadding : Nat → Reader Unit
  | 0 => return ()
  | steps + 1 => do
    if (← next?).any Text.isBlank then
      let _ ← bump
      readPadding steps

/-- Read decimal digits, behind those before. -/
def readDecimalDigits (digits : List Char) : Nat → Reader (List Char)
  | 0 => return digits
  | steps + 1 => do
    match ← next? with
    | none => return digits
    | some c =>
      if c.isDigit then
        let _ ← bumpOver
        readDecimalDigits (digits ++ [c]) steps
      else return digits

/-- The greatest number that a count may be. -/
def maxCount : Nat := 4294967295

/-- Read a count, with blanks around it. A count that is missing or too great is given as the fault
    that it is, since another one may come first. -/
def readCount : Reader (Except Fault Nat) := do
  readPadding (← stepsLeft)
  let start ← here
  let digits ← readDecimalDigits [] (← stepsLeft)
  let span := ⟨start, ← here⟩
  readPadding (← stepsLeft)
  if digits.isEmpty then return .error ⟨.repetitionCountEmpty, span, none⟩
  let n := digits.foldl (fun n c => 10 * n + (c.toNat - '0'.toNat)) 0
  if maxCount < n then return .error ⟨.decimalInvalid, span, none⟩
  return .ok n

/-- Read the bounds of a repetition from its opening brace, up to its closing brace. -/
def readBounds (start : Position) : Reader (Nat × Option Nat) := do
  if !(← bumpOver) then fault ⟨start, ← here⟩ .repetitionCountUnclosed
  let least ← readCount
  if (← next?).isNone then fault ⟨start, ← here⟩ .repetitionCountUnclosed
  if (← next?) = some ',' then
    if !(← bumpOver) then fault ⟨start, ← here⟩ .repetitionCountUnclosed
    if (← next?) = some '\x7d' then return (← liftExcept least, none)
    else
      let least ← liftExcept least
      let most ← liftExcept (← readCount)
      return (least, some most)
  else
    let least ← liftExcept least
    return (least, some least)
where
  /-- Go on with a count, or end in its fault. -/
  liftExcept (count : Except Fault Nat) : Reader Nat :=
    match count with
    | .ok n => return n
    | .error f => throw f

/-- Read a repetition from its opening brace. -/
def readCountedRepetition (chain : Chain) : Reader Chain := do
  let start ← here
  let (t, before) ← takeRepeated chain
  let (least, most) ← readBounds start
  if (← next?) ≠ some '\x7d' then fault ⟨start, ← here⟩ .repetitionCountUnclosed
  if (← bumpOver) && (← next?) = some '?' then
    let _ ← bump
  let stop ← here
  if most.any (· < least) then fault ⟨start, stop⟩ .repetitionCountInvalid
  return before.push (.repetition ⟨t.span.start, stop⟩ least most t)

/-! ## Whole expressions -/

/-- End an expression. No group may be open. -/
def readEnd (frames : List Frame) (chain : Chain) : Reader Tree := do
  match closeChoice chain (← here) frames with
  | (t, []) => return t
  | (_, .group g :: _) => fault g.span .groupUnclosed
  | (t, _) => return t

/-- Close the innermost group at its closing parenthesis: the chain around it, with the group, and
    the frames around that. -/
def readGroupEnd (frames : List Frame) (chain : Chain) : Reader (Chain × List Frame) := do
  match closeChoice chain (← here) frames with
  | (t, .group g :: outer) =>
    let _ ← bump
    modify fun k => { k with verbose := g.verbose }
    return (g.before.push (.group ⟨g.span.start, ← here⟩ g.marks g.captures t), outer)
  | _ => fault (← spanNext) .groupUnopened

/-- Read on in an expression, where `frames` are open and `chain` has been read since the last of
    them. -/
def readFrom (frames : List Frame) (chain : Chain) : Nat → Reader Tree
  | 0 => readEnd frames chain
  | steps + 1 => do
    skipBlanks
    match ← next? with
    | none => readEnd frames chain
    | some '(' =>
      let verbose := (← get).verbose
      match ← readOpening with
      | .flags span marks =>
        modify fun k => { k with verbose := (flagState? .verbose marks).getD verbose }
        readFrom frames (chain.push (.flags span marks)) steps
      | .group span marks captures =>
        modify fun k => { k with verbose := (flagState? .verbose marks).getD verbose }
        readFrom (.group ⟨chain, span, marks, captures, verbose⟩ :: frames) ⟨← here, []⟩ steps
    | some ')' =>
      let (chain, frames) ← readGroupEnd frames chain
      readFrom frames chain steps
    | some '|' =>
      let frames := addBranch chain (← here) frames
      let _ ← bump
      readFrom frames ⟨← here, []⟩ steps
    | some '[' => readFrom frames (chain.push (← readClass)) steps
    | some '?' => readFrom frames (← readRepetition chain 0 (some 1)) steps
    | some '*' => readFrom frames (← readRepetition chain 0 none) steps
    | some '+' => readFrom frames (← readRepetition chain 1 none) steps
    | some '\x7b' => readFrom frames (← readCountedRepetition chain) steps
    | some c => readFrom frames (chain.push (.atom (← readAtom c))) steps

/-- Read an expression. -/
def Tree.read (expression : List Char) : Except Fault Tree :=
  ((readFrom [] ⟨.start, []⟩ (expression.length + 1)).run (.start expression)).map (·.1)

/-! ## Depth -/

/-- Check that a class is not nested too deep, where `depth` parts are around it. -/
def ClassTree.checkDepth (depth : Nat) : ClassTree → Except Fault Unit
  | .empty _ | .literal _ | .range _ _ _ | .named _ => .ok ()
  | .bracketed span _ inner => do
    if depth ≥ nestLimit then throw ⟨.nestedTooDeep, span, none⟩
    inner.checkDepth (depth + 1)
  | .union span items => do
    if depth ≥ nestLimit then throw ⟨.nestedTooDeep, span, none⟩
    checkDepths (depth + 1) items
  | .combined span _ left right => do
    if depth ≥ nestLimit then throw ⟨.nestedTooDeep, span, none⟩
    left.checkDepth (depth + 1)
    right.checkDepth (depth + 1)
where
  /-- Check each of some classes. -/
  checkDepths (depth : Nat) : List ClassTree → Except Fault Unit
    | [] => .ok ()
    | t :: ts => do
      t.checkDepth depth
      checkDepths depth ts

/-- Check that an expression is not nested too deep, where `depth` parts are around it. -/
def Tree.checkDepth (depth : Nat) : Tree → Except Fault Unit
  | .empty _ | .flags _ _ | .atom _ => .ok ()
  | .bracketed span _ inner => do
    if depth ≥ nestLimit then throw ⟨.nestedTooDeep, span, none⟩
    inner.checkDepth (depth + 1)
  | .repetition span _ _ inner | .group span _ _ inner => do
    if depth ≥ nestLimit then throw ⟨.nestedTooDeep, span, none⟩
    inner.checkDepth (depth + 1)
  | .choice span parts | .chain span parts => do
    if depth ≥ nestLimit then throw ⟨.nestedTooDeep, span, none⟩
    checkDepths (depth + 1) parts
where
  /-- Check each of some expressions. -/
  checkDepths (depth : Nat) : List Tree → Except Fault Unit
    | [] => .ok ()
    | t :: ts => do
      t.checkDepth depth
      checkDepths depth ts

end VisitorGen.Regex
