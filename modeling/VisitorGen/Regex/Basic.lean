import VisitorGen.Regex.Meaning
import VisitorGen.Regex.Reader
import VisitorGen.Regex.Search

set_option autoImplicit false

/-! # Expressions that select texts

An expression is read, checked and given its meaning in one step. It can be refused for a fault, or
because a matcher for it would be too large. -/

namespace VisitorGen.Regex

/-- Why there is no matcher for an expression. -/
inductive Refusal where
  | faulty (f : Fault)
  | tooLarge
  deriving DecidableEq, Repr

/-- The wording of a refusal of an expression. -/
def Refusal.message (expression : String) : Refusal → String
  | .faulty f => f.report expression
  | .tooLarge => "Compiled regex exceeds size limit of " ++ roomLimit.repr ++ " bytes."

/-- The meaning of a written expression. -/
def Expr.read (expression : String) : Except Refusal Expr :=
  let meaning := do
    let t ← Tree.read expression.toList
    t.checkDepth 0
    t.meaning .initial
  match meaning with
  | .error f => .error (.faulty f)
  | .ok (e, _) => if roomLimit < e.room then .error .tooLarge else .ok e

end VisitorGen.Regex
