set_option autoImplicit false

/-! # Glob patterns

A pattern matches names: `?` stands for any character, `*` for any text, and a class in brackets
for one character that is, or with `!` is not, among those listed. `**` is allowed only as a whole
segment of a path, where it stands for any directories. -/

namespace VisitorGen.Glob

/-! ## Tokens -/

/-- The characters from one to another. -/
structure CharSpan where
  first : Char
  last : Char
  deriving DecidableEq, Repr

/-- Whether a character lies in one of the spans. -/
def inSpans (spans : List CharSpan) (c : Char) : Bool :=
  spans.any fun s => s.first ≤ c && c ≤ s.last

/-- One element of a pattern. -/
inductive Token where
  | char (c : Char)
  | anyChar
  | anyText
  | anyDirectories
  | oneOf (spans : List CharSpan)
  | noneOf (spans : List CharSpan)
  deriving DecidableEq, Repr

/-- Whether a token that stands for one character stands for this one. -/
def Token.holds (c : Char) : Token → Bool
  | .char d => c = d
  | .anyChar => true
  | .oneOf spans => inSpans spans c
  | .noneOf spans => !inSpans spans c
  | .anyText => false
  | .anyDirectories => false

/-! ## Malformed patterns -/

/-- What is wrong with a pattern. -/
inductive Flaw where
  /-- More than two stars in a row. -/
  | tooManyStars
  /-- Two stars beside other text. -/
  | partialSegment
  /-- A bracket that opens no class. -/
  | badClass
  deriving DecidableEq, Repr

/-- The wording of a flaw. -/
def Flaw.message : Flaw → String
  | .tooManyStars => "wildcards are either regular `*` or recursive `**`"
  | .partialSegment => "recursive wildcards must form a single path component"
  | .badClass => "invalid range pattern"

/-- Why a pattern is refused, and at which of its characters. -/
structure PatternError where
  position : Nat
  flaw : Flaw
  deriving DecidableEq, Repr

/-- The wording of a pattern error. -/
def PatternError.message (e : PatternError) : String :=
  "Pattern syntax error near position " ++ e.position.repr ++ ": " ++ e.flaw.message

/-! ## Reading patterns -/

/-- The spans of a class: a dash between two characters joins them. -/
def readSpans : List Char → List CharSpan
  | a :: '-' :: b :: rest => ⟨a, b⟩ :: readSpans rest
  | a :: rest => ⟨a, a⟩ :: readSpans rest
  | [] => []

/-- The text before the first closing bracket and the text behind it. -/
def splitAtClose : List Char → Option (List Char × List Char)
  | [] => none
  | c :: cs =>
    if c = ']' then some ([], cs) else (splitAtClose cs).map fun (front, rest) => (c :: front, rest)

/-- Read a class after its opening bracket. Its first character is never the closing bracket. -/
def readClass? : List Char → Option (Token × List Char)
  | '!' :: c :: cs =>
    (splitAtClose cs).map fun (front, rest) => (.noneOf (readSpans (c :: front)), rest)
  | '!' :: [] => none
  | c :: cs =>
    (splitAtClose cs).map fun (front, rest) => (.oneOf (readSpans (c :: front)), rest)
  | [] => none

/-- Read a pattern from position `position` on, where `fresh` says that a segment starts there. The
    first number bounds the tokens still to come. -/
def readFrom : Nat → Nat → Bool → List Char → Except PatternError (List Token)
  | 0, _, _, _ => .ok []
  | _, _, _, [] => .ok []
  | bound + 1, position, fresh, c :: cs =>
    let push (token : Token) (used : Nat) (fresh : Bool) (rest : List Char) :=
      (readFrom bound (position + used) fresh rest).map (token :: ·)
    if c = '?' then push .anyChar 1 false cs
    else if c = '*' then
      let stars := 1 + (cs.takeWhile (· = '*')).length
      let rest := cs.dropWhile (· = '*')
      if 2 < stars then .error ⟨position + 2, .tooManyStars⟩
      else if stars = 1 then push .anyText 1 false rest
      else if !fresh then .error ⟨position - 1, .partialSegment⟩
      else
        match rest with
        | [] => .ok [.anyDirectories]
        | '/' :: rest => push .anyDirectories 3 true rest
        | _ => .error ⟨position + 2, .partialSegment⟩
    else if c = '[' then
      match readClass? cs with
      | some (token, rest) => push token (1 + (cs.length - rest.length)) false rest
      | none => .error ⟨position, .badClass⟩
    else push (.char c) 1 (c = '/') cs

/-- Read a pattern. -/
def read (pattern : List Char) : Except PatternError (List Token) :=
  readFrom pattern.length 0 true pattern

/-! ## Matching -/

/-- Whether a predicate holds of a text or of the text behind some of its characters. -/
def anySuffix (p : List Char → Bool) : List Char → Bool
  | [] => p []
  | c :: cs => p (c :: cs) || anySuffix p cs

/-- Whether tokens stand for a whole name. -/
def matchesName : List Token → List Char → Bool
  | [], cs => cs.isEmpty
  | .anyText :: ts, cs => anySuffix (matchesName ts) cs
  | .anyDirectories :: ts, cs => anySuffix (matchesName ts) cs
  | _ :: _, [] => false
  | t :: ts, c :: cs => t.holds c && matchesName ts cs

/-- The name that tokens stand for, if they stand for a single one. -/
def literal? : List Token → Option (List Char)
  | [] => some []
  | .char c :: ts => (literal? ts).map (c :: ·)
  | _ :: _ => none

end VisitorGen.Glob
