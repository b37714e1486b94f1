import VisitorGen.Regex.Expr
import VisitorGen.Regex.Property
import VisitorGen.Text.Fold

set_option autoImplicit false

/-! # What a written expression means

Flags hold from where they are set to the end of the group. Without the flag *unicode* an expression
is about bytes: it may only match ASCII, since other bytes are parts of characters. -/

namespace VisitorGen.Regex

open Text

/-- The flags that hold at a place. -/
structure Flags where
  ignoreCase : Bool
  multiLine : Bool
  dotMatchesLineEnd : Bool
  unicode : Bool
  crlf : Bool
  deriving DecidableEq, Repr

/-- The flags at the start of an expression. -/
def Flags.initial : Flags := ⟨false, false, false, true, false⟩

/-- The flags behind a setting of some. -/
def Flags.change (f : Flags) (marks : List FlagMark) : Flags where
  ignoreCase := (flagState? .ignoreCase marks).getD f.ignoreCase
  multiLine := (flagState? .multiLine marks).getD f.multiLine
  dotMatchesLineEnd := (flagState? .dotMatchesLineEnd marks).getD f.dotMatchesLineEnd
  unicode := (flagState? .unicode marks).getD f.unicode
  crlf := (flagState? .crlf marks).getD f.crlf

/-! ## Named classes -/

/-- The characters of a named ASCII class. -/
def AsciiClass.set : AsciiClass → CharSet
  | .alnum => .ofText "30-39 41-5A 61-7A"
  | .alpha => .ofText "41-5A 61-7A"
  | .ascii => .ofText "0-7F"
  | .blank => .ofText "9 20"
  | .cntrl => .ofText "0-1F 7F"
  | .digit => .ofText "30-39"
  | .graph => .ofText "21-7E"
  | .lower => .ofText "61-7A"
  | .print => .ofText "20-7E"
  | .punct => .ofText "21-2F 3A-40 5B-60 7B-7E"
  | .space => .ofText "9-D 20"
  | .upper => .ofText "41-5A"
  | .word => asciiWord
  | .xdigit => .ofText "30-39 41-46 61-66"

/-- The characters of a class that is written by one letter. -/
def LetterClass.set (unicode : Bool) : LetterClass → CharSet
  | .digit => if unicode then ofCategories ["Nd"] else .ofText "30-39"
  | .space => if unicode then ⟨isBlank, 10⟩ else .ofText "9-D 20"
  | .word => if unicode then wordCharacters else asciiWord

/-- A set with the other case of its characters, where case is ignored. -/
def Flags.closeUnderCase (f : Flags) (s : CharSet) : CharSet :=
  if !f.ignoreCase then s
  else if f.unicode then s.closeUnderCase
  else s.closeUnderAsciiCase

/-- A set or its complement, which holds more than ASCII. -/
def Flags.negate (f : Flags) (span : Span) (negated : Bool) (s : CharSet) :
    Except Fault CharSet :=
  if !negated then .ok s
  else if f.unicode then .ok s.compl
  else .error ⟨.matchesInvalidUtf8, span, none⟩

/-- The characters of a named class. -/
def NamedClass.meaning (f : Flags) (c : NamedClass) : Except Fault CharSet :=
  match c.name with
  | .letter letter => f.negate c.span c.negated (letter.set f.unicode)
  | .ascii name => f.negate c.span c.negated (f.closeUnderCase name.set)
  | .property query =>
    if f.unicode then
      match query.resolve with
      | .ok s => f.negate c.span c.negated (f.closeUnderCase s)
      | .error cause => .error ⟨cause, c.span, none⟩
    else .error ⟨.unicodeNotAllowed, c.span, none⟩

/-! ## Classes between brackets -/

/-- Whether a character is written as a byte that is no character. -/
def Literal.isForeignByte (f : Flags) (l : Literal) : Bool :=
  !f.unicode && l.isByte && 0x80 ≤ l.char.toNat

/-- A character as a member of a class. -/
def Literal.inClass (f : Flags) (l : Literal) : Except Fault Char :=
  if l.isForeignByte f then .error ⟨.matchesInvalidUtf8, l.span, none⟩
  else if !f.unicode && 0x80 ≤ l.char.toNat then .error ⟨.unicodeNotAllowed, l.span, none⟩
  else .ok l.char

/-- Two sets combined by an operator. -/
def ClassOp.apply : ClassOp → CharSet → CharSet → CharSet
  | .intersection, s, t => s.inter t
  | .difference, s, t => s.diff t
  | .symmetricDifference, s, t => s.symmDiff t

/-- The characters of a class. -/
def ClassTree.meaning (f : Flags) : ClassTree → Except Fault CharSet
  | .empty _ => .ok .empty
  | .literal l => do return .single (← l.inClass f)
  | .range _ first last => do return .between (← first.inClass f) (← last.inClass f)
  | .named c => c.meaning f
  | .bracketed span negated inner => do
    f.negate span negated (f.closeUnderCase (← inner.meaning f))
  | .union _ items => do return .unions (← meanings f items)
  | .combined _ op left right => do
    let s ← left.meaning f
    let t ← right.meaning f
    return op.apply (f.closeUnderCase s) (f.closeUnderCase t)
where
  /-- The characters of each of some classes. -/
  meanings (f : Flags) : List ClassTree → Except Fault (List CharSet)
    | [] => .ok []
    | t :: ts => do return (← t.meaning f) :: (← meanings f ts)

/-! ## Expressions -/

/-- The condition that an assertion stands for. -/
def Assertion.look (f : Flags) : Assertion → Look
  | .lineStart => if f.multiLine then .lineStart f.crlf else .textStart
  | .lineEnd => if f.multiLine then .lineEnd f.crlf else .textEnd
  | .textStart => .textStart
  | .textEnd => .textEnd
  | .wordBoundary => .word (!f.unicode) .boundary
  | .notWordBoundary => .word (!f.unicode) .noBoundary
  | .wordStart => .word (!f.unicode) .start
  | .wordEnd => .word (!f.unicode) .stop
  | .wordStartHalf => .word (!f.unicode) .startHalf
  | .wordEndHalf => .word (!f.unicode) .stopHalf

/-- The characters that a dot stands for. -/
def Flags.dot (f : Flags) : CharSet :=
  if f.dotMatchesLineEnd then CharSet.empty.compl
  else if f.crlf then (CharSet.ofText "A D").compl
  else (CharSet.single '\n').compl

/-- What an atom means. -/
def Atom.meaning (f : Flags) : Atom → Except Fault Expr
  | .literal l =>
    if l.isForeignByte f then .error ⟨.matchesInvalidUtf8, l.span, none⟩
    else .ok (.set (f.closeUnderCase (.single l.char)))
  | .dot span => if f.unicode then .ok (.set f.dot) else .error ⟨.matchesInvalidUtf8, span, none⟩
  | .assertion _ a => .ok (.look (a.look f))
  | .named c => do return .set (← c.meaning f)

/-- What an expression means, and the flags that hold behind it. -/
def Tree.meaning (f : Flags) : Tree → Except Fault (Expr × Flags)
  | .empty _ => .ok (.empty, f)
  | .flags _ marks => .ok (.empty, f.change marks)
  | .atom a => do return (← a.meaning f, f)
  | .bracketed span negated inner => do
    let s ← f.negate span negated (f.closeUnderCase (← inner.meaning f))
    return (.set s, f)
  | .repetition _ least most inner => do
    let (e, f) ← inner.meaning f
    return (.repeated e least most, f)
  | .group _ marks _ inner => do
    let (e, _) ← inner.meaning (f.change marks)
    return (e, f)
  | .chain _ parts => do
    let (es, f) ← meanings f parts
    return (.chain es, f)
  | .choice _ branches => do
    match ← meanings f branches with
    | (e :: es, f) => return (.choice e es, f)
    | ([], f) => return (.empty, f)
where
  /-- What each of some expressions means, where flags that one of them sets hold in the next. -/
  meanings (f : Flags) : List Tree → Except Fault (List Expr × Flags)
    | [] => .ok ([], f)
    | t :: ts => do
      let (e, f) ← t.meaning f
      let (es, f) ← meanings f ts
      return (e :: es, f)

end VisitorGen.Regex
