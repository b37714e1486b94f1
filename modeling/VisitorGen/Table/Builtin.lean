import VisitorGen.Table.Basic
import VisitorGen.Target.Basic

set_option autoImplicit false

/-! # Built-in tables

The expression and statement families of the Lox language, as each target language spells their
types. They are generated when no grammar file is given. -/

namespace VisitorGen

/-- The expressions, with C# types. -/
def csharpExpressions : List String :=
  ["Assign   : Token name, Expr value",
   "Binary   : Expr left, Token op, Expr right",
   "Call     : Expr callee, Token paren, List<Expr> arguments",
   "Get      : Expr obj, Token name",
   "Grouping : Expr expression",
   "Literal  : object value",
   "Logical  : Expr left, Token op, Expr right",
   "Set      : Expr obj, Token name, Expr value",
   "Super    : Token keyword, Token method",
   "This     : Token keyword",
   "Unary    : Token op, Expr right",
   "Variable : Token name"]

/-- The statements, with C# types. -/
def csharpStatements : List String :=
  ["Block      : List<Stmt> statements",
   "Class      : Token name, Expr.Variable superclass, List<Stmt.Function> methods",
   "Expression : Expr expression",
   "Function   : Token name, List<Token> parameters, List<Stmt> body",
   "If         : Expr condition, Stmt thenBranch, Stmt elseBranch",
   "Print      : Expr expression",
   "Return     : Token keyword, Expr value",
   "Var        : Token name, Expr initializer",
   "While      : Expr condition, Stmt body"]

/-- The expressions, with Rust types. -/
def rustExpressions : List String :=
  ["Assign   : Token name, Box<Expr> value",
   "Binary   : Box<Expr> left, Token operator, Box<Expr> right",
   "Call     : Box<Expr> callee, Token paren, Vec<Expr> arguments",
   "Get      : Box<Expr> object, Token name",
   "Grouping : Box<Expr> expression",
   "Literal  : Object value",
   "Logical  : Box<Expr> left, Token operator, Box<Expr> right",
   "Set      : Box<Expr> object, Token name, Box<Expr> value",
   "Super    : Token keyword, Token method",
   "This     : Token keyword",
   "Unary    : Token operator, Box<Expr> right",
   "Variable : Token name"]

/-- The statements, with Rust types. -/
def rustStatements : List String :=
  ["Block      : Vec<Stmt> statements",
   "Class      : Token name, Option<Variable> superclass, Vec<Function> methods",
   "Expression : Expr expression",
   "Function   : Token name, Vec<Token> params, Vec<Stmt> body",
   "If         : Expr condition, Box<Stmt> then_branch, Option<Box<Stmt>> else_branch",
   "Print      : Expr expression",
   "Return     : Token keyword, Option<Expr> value",
   "Var        : Token name, Option<Expr> initializer",
   "While      : Expr condition, Box<Stmt> body"]

/-- The tables generated when no grammar file is given. -/
def builtinTables : Language → List Table
  | .csharp => [⟨"Expr", csharpExpressions⟩, ⟨"Stmt", csharpStatements⟩]
  | .rust => [⟨"Expr", rustExpressions⟩, ⟨"Stmt", rustStatements⟩]

end VisitorGen
