import VisitorGen.Regex.Place

set_option autoImplicit false

/-! # Expressions as they are written

The tree of an expression, with the place of each part. What an expression means is said in terms
of it: which characters a class holds depends on the flags that are set where the class stands. -/

namespace VisitorGen.Regex

/-! ## Flags -/

/-- A switch that changes how the part of a group behind it is read. -/
inductive Flag where
  | ignoreCase
  | multiLine
  | dotMatchesLineEnd
  | swapGreed
  | unicode
  | crlf
  | verbose
  deriving DecidableEq, Repr

/-- A flag, or the dash that turns off the flags behind it, at its place. -/
structure FlagMark where
  span : Span
  flag : Option Flag
  deriving DecidableEq, Repr

/-- What marks say about a flag: on, off or nothing. -/
def flagState? (flag : Flag) : List FlagMark → Option Bool
  | [] => none
  | m :: ms =>
    match m.flag with
    | some f => if f = flag then some true else flagState? flag ms
    | none => if ms.any (·.flag = some flag) then some false else none

/-! ## Atoms -/

/-- A character. `isByte` says that it was written by two hexadecimal digits. -/
structure Literal where
  span : Span
  char : Char
  isByte : Bool
  deriving DecidableEq, Repr

/-- The classes that are written by one letter. -/
inductive LetterClass where
  | digit
  | space
  | word
  deriving DecidableEq, Repr

/-- The classes of ASCII characters with a name. -/
inductive AsciiClass where
  | alnum
  | alpha
  | ascii
  | blank
  | cntrl
  | digit
  | graph
  | lower
  | print
  | punct
  | space
  | upper
  | word
  | xdigit
  deriving DecidableEq, Repr

/-- How a property of characters is asked for: by its name, or by a name with a value. -/
inductive PropertyQuery where
  | named (name : String)
  | valued (name value : String)
  deriving DecidableEq, Repr

/-- A class that is known by a name. -/
inductive ClassName where
  | letter (c : LetterClass)
  | ascii (c : AsciiClass)
  | property (q : PropertyQuery)
  deriving DecidableEq, Repr

/-- A class with a name, or its complement. -/
structure NamedClass where
  span : Span
  negated : Bool
  name : ClassName
  deriving DecidableEq, Repr

/-- A condition on a position, as it is written. -/
inductive Assertion where
  | lineStart
  | lineEnd
  | textStart
  | textEnd
  | wordBoundary
  | notWordBoundary
  | wordStart
  | wordEnd
  | wordStartHalf
  | wordEndHalf
  deriving DecidableEq, Repr

/-- The smallest parts of an expression. -/
inductive Atom where
  | literal (l : Literal)
  | dot (span : Span)
  | assertion (span : Span) (a : Assertion)
  | named (c : NamedClass)
  deriving DecidableEq, Repr

/-- The place of an atom. -/
def Atom.span : Atom → Span
  | .literal l => l.span
  | .dot span => span
  | .assertion span _ => span
  | .named c => c.span

/-! ## Classes between brackets -/

/-- How two classes are combined. -/
inductive ClassOp where
  | intersection
  | difference
  | symmetricDifference
  deriving DecidableEq, Repr

/-- What stands between the brackets of a class. -/
inductive ClassTree where
  | empty (span : Span)
  | literal (l : Literal)
  | range (span : Span) (first last : Literal)
  | named (c : NamedClass)
  | bracketed (span : Span) (negated : Bool) (inner : ClassTree)
  | union (span : Span) (items : List ClassTree)
  | combined (span : Span) (op : ClassOp) (left right : ClassTree)

/-- The place of a class. -/
def ClassTree.span : ClassTree → Span
  | .empty span => span
  | .literal l => l.span
  | .range span _ _ => span
  | .named c => c.span
  | .bracketed span _ _ => span
  | .union span _ => span
  | .combined span _ _ _ => span

/-! ## Expressions -/

/-- An expression. A repetition without a greatest count has no bound. -/
inductive Tree where
  | empty (span : Span)
  | flags (span : Span) (marks : List FlagMark)
  | atom (a : Atom)
  | bracketed (span : Span) (negated : Bool) (inner : ClassTree)
  | repetition (span : Span) (least : Nat) (most : Option Nat) (inner : Tree)
  | group (span : Span) (marks : List FlagMark) (captures : Bool) (inner : Tree)
  | choice (span : Span) (branches : List Tree)
  | chain (span : Span) (parts : List Tree)

/-- The place of an expression. -/
def Tree.span : Tree → Span
  | .empty span => span
  | .flags span _ => span
  | .atom a => a.span
  | .bracketed span _ _ => span
  | .repetition span _ _ _ => span
  | .group span _ _ _ => span
  | .choice span _ => span
  | .chain span _ => span

/-- Whether an expression can be repeated: an empty one and a setting of flags cannot. -/
def Tree.isRepeatable : Tree → Bool
  | .empty _ => false
  | .flags _ _ => false
  | _ => true

end VisitorGen.Regex
