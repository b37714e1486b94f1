import VisitorGen.FileTree.Access
import VisitorGen.Glob.Expand
import VisitorGen.Json.Reader

set_option autoImplicit false

/-! # Loading grammar files

Grammar files are named by patterns. The files are read in the order of the patterns and, within
one pattern, in the order of their paths; together they give one list of tables. A family may be
defined by one file only, since its unit would be written twice. The first fault ends the loading:
first all patterns are expanded, then the files are read. -/

namespace VisitorGen

/-- Why tables cannot be loaded. -/
inductive LoadError where
  | badPattern (pattern : String) (cause : Glob.PatternError)
  | noMatch (pattern : String)
  | unreadable (path : String) (cause : IoError)
  | malformed (path : String) (cause : Json.ReadError)
  | redefined (family path : String)

/-- The wording of a load error, with its cause. -/
def LoadError.message : LoadError → String
  | .badPattern pattern cause =>
    "invalid grammar path pattern `" ++ pattern ++ "`: " ++ cause.message
  | .noMatch pattern => "no grammar file matches `" ++ pattern ++ "`"
  | .unreadable path cause => "failed to read grammar file " ++ path ++ ": " ++ cause.message
  | .malformed path cause => path ++ ": " ++ cause.message
  | .redefined family path =>
    "family `" ++ family ++ "` is defined more than once (" ++ path ++ ")"

/-- The paths of the grammar files, in reading order. Each pattern must stand for at least one. -/
def expandPatterns (t : FileTree) : List String → Except LoadError (List String)
  | [] => .ok []
  | pattern :: patterns =>
    match Glob.expand t pattern with
    | .error e => .error (.badPattern pattern e)
    | .ok [] => .error (.noMatch pattern)
    | .ok paths =>
      match expandPatterns t patterns with
      | .error e => .error e
      | .ok more => .ok (paths ++ more)

/-- The tables of one grammar file. -/
def readGrammar (t : FileTree) (path : String) : Except LoadError (List Table) :=
  match t.readText path with
  | .error e => .error (.unreadable path e)
  | .ok text =>
    match Json.readTables text with
    | .error e => .error (.malformed path e)
    | .ok tables => .ok tables

/-- Put the tables of a file behind those of earlier files, none of which may define the same
    family. -/
def addTables (path : String) (earlier : List Table) : List Table → Except LoadError (List Table)
  | [] => .ok earlier
  | table :: tables =>
    if earlier.any (·.family = table.family) then .error (.redefined table.family path)
    else addTables path (earlier ++ [table]) tables

/-- Read files in order, behind the tables of earlier ones. -/
def readGrammars (t : FileTree) (earlier : List Table) :
    List String → Except LoadError (List Table)
  | [] => .ok earlier
  | path :: paths =>
    match readGrammar t path with
    | .error e => .error e
    | .ok tables =>
      match addTables path earlier tables with
      | .error e => .error e
      | .ok together => readGrammars t together paths

/-- The tables of the grammar files that patterns name. -/
def Table.loadAll (t : FileTree) (patterns : List String) : Except LoadError (List Table) :=
  match expandPatterns t patterns with
  | .error e => .error e
  | .ok paths => readGrammars t [] paths

end VisitorGen
