import VisitorGen.Regex.Place

set_option autoImplicit false

/-! # What can be wrong with an expression

The causes for which an expression is refused, the wording of each, and the report of a fault: the
expression with marks under its place, and the cause. -/

namespace VisitorGen.Regex

/-- Why an expression is refused. -/
inductive Cause where
  | classEscapeInvalid
  | classRangeInvalid
  | classRangeLiteral
  | classUnclosed
  | decimalInvalid
  | escapeHexEmpty
  | escapeHexInvalid
  | escapeHexInvalidDigit
  | escapeUnfinished
  | escapeUnrecognized
  | flagDanglingNegation
  | flagDuplicate
  | flagRepeatedNegation
  | flagUnfinished
  | flagUnrecognized
  | groupNameDuplicate
  | groupNameEmpty
  | groupNameInvalid
  | groupNameUnfinished
  | groupUnclosed
  | groupUnopened
  | nestedTooDeep
  | repetitionCountInvalid
  | repetitionCountEmpty
  | repetitionCountUnclosed
  | repetitionMissing
  | wordBoundaryUnclosed
  | wordBoundaryUnrecognized
  | wordBoundaryUnfinished
  | propertyInvalid
  | backreference
  | lookAround
  /-- A character or property that is not ASCII where only ASCII is matched. -/
  | unicodeNotAllowed
  /-- A part that would match bytes outside of any character. -/
  | matchesInvalidUtf8
  | propertyNotFound
  | propertyValueNotFound
  deriving DecidableEq, Repr

/-- The greatest depth of groups, classes and lists within each other. -/
def nestLimit : Nat := 250

/-- The wording of a cause. -/
def Cause.message : Cause → String
  | .classEscapeInvalid => "invalid escape sequence found in character class"
  | .classRangeInvalid => "invalid character class range, the start must be <= the end"
  | .classRangeLiteral => "invalid range boundary, must be a literal"
  | .classUnclosed => "unclosed character class"
  | .decimalInvalid => "decimal literal invalid"
  | .escapeHexEmpty => "hexadecimal literal empty"
  | .escapeHexInvalid => "hexadecimal literal is not a Unicode scalar value"
  | .escapeHexInvalidDigit => "invalid hexadecimal digit"
  | .escapeUnfinished => "incomplete escape sequence, reached end of pattern prematurely"
  | .escapeUnrecognized => "unrecognized escape sequence"
  | .flagDanglingNegation => "dangling flag negation operator"
  | .flagDuplicate => "duplicate flag"
  | .flagRepeatedNegation => "flag negation operator repeated"
  | .flagUnfinished => "expected flag but got end of regex"
  | .flagUnrecognized => "unrecognized flag"
  | .groupNameDuplicate => "duplicate capture group name"
  | .groupNameEmpty => "empty capture group name"
  | .groupNameInvalid => "invalid capture group character"
  | .groupNameUnfinished => "unclosed capture group name"
  | .groupUnclosed => "unclosed group"
  | .groupUnopened => "unopened group"
  | .nestedTooDeep =>
    "exceed the maximum number of nested parentheses/brackets (" ++ nestLimit.repr ++ ")"
  | .repetitionCountInvalid =>
    "invalid repetition count range, the start must be <= the end"
  | .repetitionCountEmpty => "repetition quantifier expects a valid decimal"
  | .repetitionCountUnclosed => "unclosed counted repetition"
  | .repetitionMissing => "repetition operator missing expression"
  | .wordBoundaryUnclosed =>
    "special word boundary assertion is either unclosed or contains an invalid character"
  | .wordBoundaryUnrecognized =>
    "unrecognized special word boundary assertion, valid choices are: " ++
      "start, end, start-half or end-half"
  | .wordBoundaryUnfinished =>
    "found either the beginning of a special word boundary or a bounded repetition on a \\b " ++
      "with an opening brace, but no closing brace"
  | .propertyInvalid => "invalid Unicode character class"
  | .backreference => "backreferences are not supported"
  | .lookAround => "look-around, including look-ahead and look-behind, is not supported"
  | .unicodeNotAllowed => "Unicode not allowed here"
  | .matchesInvalidUtf8 => "pattern can match invalid UTF-8"
  | .propertyNotFound => "Unicode property not found"
  | .propertyValueNotFound => "Unicode property value not found"

/-- A cause at its place. A duplicate also has the place of the first one. -/
structure Fault where
  cause : Cause
  span : Span
  earlier : Option Span
  deriving DecidableEq, Repr

/-! ## Reports -/

/-- The lines of an expression. A carriage return before a line end belongs to the line end. -/
def linesOf (expression : String) : List (List Char) :=
  let parts := expression.toList.splitOn '\n'
  let ended := parts.dropLast.map fun l => if l.getLast? = some '\r' then l.dropLast else l
  ended ++ parts.getLast?.toList.filter (· ≠ [])

/-- The spans of a fault, in order. -/
def Fault.spans (f : Fault) : List Span :=
  match f.earlier with
  | none => [f.span]
  | some s => if s.le f.span then [s, f.span] else [f.span, s]

/-- Marks under the spans of one line, where `column` columns are behind. At least one character of
    a span is marked. -/
def marks (column : Nat) : List Span → List Char
  | [] => []
  | s :: rest =>
    let gap := s.start.column - 1 - column
    let width := max 1 (s.stop.column - s.start.column)
    List.replicate gap ' ' ++ List.replicate width '^' ++ marks (column + gap + width) rest

/-- A number at the width of another one. -/
def padNumber (width n : Nat) : String :=
  "".pushn ' ' (width - n.repr.length) ++ n.repr

/-- A line of an expression with the marks under it. If the lines are numbered, `width` is the
    width of the numbers. -/
def Fault.showLine (f : Fault) (width : Nat) (number : Nat) (line : List Char) : String :=
  let head := if width = 0 then "    " else padNumber width number ++ ": "
  let here := f.spans.filter fun s => s.isOneLine && s.start.line == number
  head ++ String.ofList line ++ "\n" ++
    if here.isEmpty then ""
    else "".pushn ' ' head.length ++ String.ofList (marks 0 here) ++ "\n"

/-- The line about a span over several lines. -/
def Span.describe (s : Span) : String :=
  "on line " ++ s.start.line.repr ++ " (column " ++ s.start.column.repr ++ ") through line " ++
    s.stop.line.repr ++ " (column " ++ (s.stop.column - 1).repr ++ ")"

/-- The report of a fault in an expression. An expression of several lines stands between rules,
    with numbered lines. -/
def Fault.report (f : Fault) (expression : String) : String :=
  let lines := linesOf expression
  let many := expression.toList.contains '\n'
  let count := lines.length + if expression.toList.getLast? = some '\n' then 1 else 0
  let width := if count ≤ 1 then 0 else count.repr.length
  let shown := String.join
    ((lines.zipIdx 1).map fun (line, number) => f.showLine width number line)
  let rule := if many then "".pushn '~' 79 ++ "\n" else ""
  let wide := (f.spans.filter fun s => !s.isOneLine).map Span.describe
  "regex parse error:\n" ++ rule ++ shown ++ rule ++
    (if !wide.isEmpty then String.intercalate "\n" wide ++ "\n" else "") ++
    "error: " ++ f.cause.message

end VisitorGen.Regex
