import VisitorGen.FileTree.Access
import VisitorGen.Glob.Pattern

set_option autoImplicit false

/-! # Expanding glob patterns

A pattern is expanded against a file tree segment by segment. A segment without wildcards is put
behind the path as it is, if something is there; another one is compared with the names in the
directory. The paths that come out are those that lead from the working directory to the nodes
found, spelled as the pattern spells them. -/

namespace VisitorGen.Glob

/-- A pattern, ready to be expanded. -/
structure Search where
  /-- Where the search starts. -/
  start : String
  /-- The segments of the pattern. -/
  segments : List (List Token)
  /-- Whether only directories count. -/
  directoriesOnly : Bool
  deriving Repr

/-- The parts of a text between slashes, without an empty one at the end. -/
def segmentTexts (cs : List Char) : List (List Char) :=
  let parts := cs.splitOn '/'
  if parts.getLast? = some [] then parts.dropLast else parts

/-- Read segments from left to right. -/
def readSegments : List (List Char) → Except PatternError (List (List Token))
  | [] => .ok []
  | s :: rest =>
    match read s with
    | .error e => .error e
    | .ok tokens => (readSegments rest).map (tokens :: ·)

/-- Segments with only one of several recursive ones in a row. -/
def collapse : List (List Token) → List (List Token)
  | [] => []
  | s :: rest =>
    if s = [.anyDirectories] && rest.head? = some [.anyDirectories] then collapse rest
    else s :: collapse rest

/-- Prepare a pattern. It must be well formed as a whole and in each of its segments. -/
def Search.of (pattern : String) : Except PatternError Search :=
  let cs := pattern.toList
  let absolute := cs.head? = some '/'
  let relative := if absolute then cs.drop 1 else cs
  match read cs with
  | .error e => .error e
  | .ok _ =>
    (readSegments (segmentTexts relative)).map fun segments =>
      ⟨if absolute then "/" else ".", if relative.isEmpty then [[]] else collapse segments,
        cs.getLast? = some '/'⟩

/-! ## Expansion -/

/-- Whether a path is the working directory. -/
def isCurrent (path : String) : Bool :=
  let p := Path.parse path
  !p.absolute && p.components = ["."]

/-- The path of a name in a directory. The working directory leaves no trace in it. -/
def below (dir name : String) : String :=
  if isCurrent dir then name else Path.join dir name

/-- What the directory at a path holds: names, and for a search through all directories below it
    also the paths of what they hold. -/
def contents (t : FileTree) (dir : String) (deep : Bool) : List (List String) :=
  match t.directoryAt? (.parse dir) with
  | none => []
  | some place =>
    if deep then (t.descendants place).map (·.drop place.length)
    else (t.children place).map ([·])

/-- The paths that segments lead to from a path. -/
def expandFrom (t : FileTree) (directoriesOnly : Bool) :
    List (List Token) → String → List String
  | [], path => if directoriesOnly && !t.isDirectory (.parse path) then [] else [path]
  | segment :: rest, path =>
    match literal? segment with
    | some name =>
      let name := String.ofList name
      let next := below path name
      let found :=
        if name = "." || name = ".." then t.isDirectory (.parse path) else t.exists? (.parse next)
      if found then expandFrom t directoriesOnly rest next else []
    | none =>
      if segment = [.anyDirectories] then
        let inside := (contents t path true).map fun names =>
          (below path (String.intercalate "/" names), names.getLast?.getD "")
        match rest with
        | [] => (inside.map (·.1)).filter fun p => t.isDirectory (.parse p)
        | next :: rest =>
          (inside.filter fun p => matchesName next p.2.toList).flatMap fun p =>
            expandFrom t directoriesOnly rest p.1
      else
        let names := (contents t path false).flatten.filter (matchesName segment ·.toList)
        let special := [".", ".."].filter fun name =>
          segment.head? = some (.char '.') && t.isDirectory (.parse path) &&
            matchesName segment name.toList
        (names.map (below path)).flatMap (expandFrom t directoriesOnly rest) ++
          (special.map (Path.join path)).flatMap (expandFrom t directoriesOnly rest)

/-- The paths that a pattern stands for, in order. -/
def expand (t : FileTree) (pattern : String) : Except PatternError (List String) :=
  (Search.of pattern).map fun s =>
    sortPaths (expandFrom t s.directoriesOnly s.segments s.start)

end VisitorGen.Glob
