import VisitorGen.Text.Case

set_option autoImplicit false

/-! # Snake case

Names in lower case with an underscore between their words. A word starts at a capital, but a run of
capitals is one acronym: `HTTPServer` becomes `http_server`. -/

namespace VisitorGen

/-- Whether an upper-case letter between `prev` and `next` starts a word: after a lower-case letter
    or an ASCII digit, or as the last capital of an acronym, before a lower-case letter. -/
def startsWord (prev next : Option Char) : Bool :=
  match prev with
  | none => false
  | some p =>
    if p = '_' then false
    else if Text.isLower p || p.isDigit then true
    else Text.isUpper p && next.any Text.isLower

/-- The snake case of a text that follows the character `prev`: capitals in lower case, with an
    underscore before each one that starts a word. -/
def snakeAfter (prev : Option Char) : List Char → List Char
  | [] => []
  | c :: cs =>
    if Text.isUpper c then
      (if startsWord prev cs.head? then ['_'] else []) ++ Text.lower c ++ snakeAfter (some c) cs
    else c :: snakeAfter (some c) cs

/-- The snake case of a name. -/
def snakeCase (name : String) : String :=
  String.ofList (snakeAfter none name.toList)

/-- A name in lower case, letter by letter. -/
def lowerCase (name : String) : String :=
  String.ofList (Text.lowerText name.toList)

end VisitorGen
