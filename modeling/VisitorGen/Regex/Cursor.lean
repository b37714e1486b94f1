import VisitorGen.Regex.Fault
import VisitorGen.Text.Blank

set_option autoImplicit false

/-! # Moving through an expression

An expression is read from left to right. A cursor is what is left of it, with the position of its
first character. In verbose mode blanks between the parts of an expression are skipped, and so are
comments, from a number sign to the end of the line. -/

namespace VisitorGen.Regex

/-- How far an expression has been read, and the names that groups have been given so far. -/
structure Cursor where
  rest : List Char
  pos : Position
  verbose : Bool
  names : List (List Char × Span)
  deriving DecidableEq, Repr

/-- The cursor at the start of an expression. -/
def Cursor.start (expression : List Char) : Cursor :=
  ⟨expression, .start, false, []⟩

/-- The rest of a text behind blanks and comments, and its position. -/
def skipVerbose (inComment : Bool) (p : Position) : List Char → List Char × Position
  | [] => ([], p)
  | c :: cs =>
    if inComment then skipVerbose (c ≠ '\n') (p.after c) cs
    else if Text.isBlank c then skipVerbose false (p.after c) cs
    else if c = '#' then skipVerbose true (p.after c) cs
    else (c :: cs, p)

/-- The cursor behind the next character. -/
def Cursor.bump (k : Cursor) : Cursor :=
  match k.rest with
  | [] => k
  | c :: cs => { k with rest := cs, pos := k.pos.after c }

/-- The cursor behind blanks and comments, in verbose mode. -/
def Cursor.skipBlanks (k : Cursor) : Cursor :=
  if k.verbose then
    let (rest, pos) := skipVerbose false k.pos k.rest
    { k with rest, pos }
  else k

/-- The first character that is neither blank nor a number sign, save that a second number sign
    counts. -/
def firstVisible (inComment : Bool) : List Char → Option Char
  | [] => none
  | c :: cs =>
    if Text.isBlank c then firstVisible inComment cs
    else if !inComment && c = '#' then firstVisible true cs
    else some c

/-- The character behind the next one; in verbose mode, behind blanks too. -/
def Cursor.second? (k : Cursor) : Option Char :=
  let behind := k.rest.drop 1
  if k.verbose && !k.rest.isEmpty then firstVisible false behind <|> behind.head? else behind.head?

/-- The span of the next character. -/
def Cursor.spanNext (k : Cursor) : Span :=
  ⟨k.pos, k.bump.pos⟩

/-! ## Reading -/

/-- A step of reading: it moves the cursor and gives a result, or ends in a fault. -/
abbrev Reader (α : Type) := StateT Cursor (Except Fault) α

/-- End in a fault. -/
def fault {α : Type} (span : Span) (cause : Cause) : Reader α :=
  throw ⟨cause, span, none⟩

/-- End in a fault that is a duplicate of something earlier. -/
def faultAfter {α : Type} (span : Span) (cause : Cause) (earlier : Span) : Reader α :=
  throw ⟨cause, span, some earlier⟩

/-- The position of the cursor. -/
def here : Reader Position := return (← get).pos

/-- The next character, if there is one. -/
def next? : Reader (Option Char) := return (← get).rest.head?

/-- The span of the next character. -/
def spanNext : Reader Span := return (← get).spanNext

/-- Go behind the next character, and say whether there is another one. -/
def bump : Reader Bool := do
  modify Cursor.bump
  return (← next?).isSome

/-- Skip blanks and comments in verbose mode. -/
def skipBlanks : Reader Unit :=
  modify Cursor.skipBlanks

/-- Go behind the next character and the blanks that follow it, and say whether there is another
    character. -/
def bumpOver : Reader Bool := do
  if ← bump then
    skipBlanks
    return (← next?).isSome
  else return false

/-- Go behind a text if it is next, and say whether it was. -/
def bumpIf (text : String) : Reader Bool := do
  if text.toList.isPrefixOf (← get).rest then
    modify fun k => text.toList.foldl (fun k _ => k.bump) k
    return true
  else return false

/-- A number of steps that is enough to read what is left. -/
def stepsLeft : Reader Nat := return (← get).rest.length + 1

end VisitorGen.Regex
