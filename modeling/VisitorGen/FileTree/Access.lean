import VisitorGen.FileTree.Basic
import VisitorGen.FileTree.Path
import VisitorGen.IoError

set_option autoImplicit false

/-! # Working with a file tree

Paths are followed segment by segment: every segment but the last must lead to a directory, empty
segments and dots stay where they are, and a name or a whole path may be too long. On top of that
stand the operations on files and directories; those that fail leave the tree as it was, except
that `makeDirAll` keeps the directories it has made. -/

namespace VisitorGen

/-- The greatest number of bytes in a name. -/
def maxNameBytes : Nat := 255

/-- The greatest number of bytes in a path. -/
def maxPathBytes : Nat := 4095

namespace FileTree

/-! ## Following paths -/

/-- The node with a name in the directory at a location. -/
def entry (t : FileTree) (place : Location) (name : String) : Except IoError (Option Node) :=
  if maxNameBytes < name.utf8ByteSize then .error .nameTooLong
  else .ok (t.node? (place ++ [name]))

/-- Follow segments from directory to directory. -/
def walk (t : FileTree) (place : Location) : List String → Except IoError Location
  | [] => .ok place
  | s :: rest =>
    if s = "" || s = "." then t.walk place rest
    else if s = ".." then t.walk place.parent rest
    else
      match t.entry place s with
      | .error e => .error e
      | .ok none => .error .notFound
      | .ok (some (.file _)) => .error .notADirectory
      | .ok (some .directory) => t.walk (place ++ [s]) rest

/-- The directory where the segments of a path start. -/
def startOf (p : Path) : Location :=
  if p.absolute then ["/"] else []

/-- Where a path leads, short of its last segment. -/
inductive Ending where
  /-- To a directory itself: the path ends in a dot, a double dot or the root. -/
  | directory
  /-- To a name in the directory at a location, with slashes behind it or not. -/
  | name (place : Location) (name : String) (slashed : Bool)

/-- Follow a path up to its last segment that is not empty. -/
def approach (t : FileTree) (p : Path) : Except IoError Ending :=
  let core := p.segments.reverse.dropWhile (· = "")
  match core with
  | [] => if p.absolute then .ok .directory else .error .notFound
  | last :: before =>
    match t.walk (startOf p) before.reverse with
    | .error e => .error e
    | .ok place =>
      if last = "." || last = ".." then .ok .directory
      else .ok (.name place last (core.length < p.segments.length))

/-- What a path leads to. -/
def stat (t : FileTree) (p : Path) : Except IoError Node :=
  match t.approach p with
  | .error e => .error e
  | .ok .directory => .ok .directory
  | .ok (.name place name slashed) =>
    match t.entry place name with
    | .error e => .error e
    | .ok none => .error .notFound
    | .ok (some .directory) => .ok .directory
    | .ok (some (.file content)) => if slashed then .error .notADirectory else .ok (.file content)

/-- Whether a path leads to something. -/
def exists? (t : FileTree) (p : Path) : Bool :=
  match t.stat p with
  | .ok _ => true
  | .error _ => false

/-- Whether a path leads to a directory. -/
def isDirectory (t : FileTree) (p : Path) : Bool :=
  match t.stat p with
  | .ok .directory => true
  | _ => false

/-! ## Directories -/

/-- Make a directory in a directory that is there. -/
def makeDir (t : FileTree) (p : Path) : Except IoError FileTree :=
  match t.approach p with
  | .error e => .error e
  | .ok .directory => .error .alreadyExists
  | .ok (.name place name _) =>
    match t.entry place name with
    | .error e => .error e
    | .ok (some _) => .error .alreadyExists
    | .ok none => .ok (t.set (place ++ [name]) .directory)

/-- Make the directory at the head of a list, where each path is the parent of the one before it.
    Parents are made when they turn out to be missing; a directory that is there will do. -/
def makeDirChain (t : FileTree) : List Path → Except IoError Unit × FileTree
  | [] => (.ok (), t)
  | p :: parents =>
    match t.makeDir p with
    | .ok made => (.ok (), made)
    | .error .notFound =>
      match t.makeDirChain parents with
      | (.error e, t') => (.error e, t')
      | (.ok (), t') =>
        match t'.makeDir p with
        | .ok made => (.ok (), made)
        | .error e => (if t'.isDirectory p then .ok () else .error e, t')
    | .error e => (if t.isDirectory p then .ok () else .error e, t)

/-- The check that every path undergoes before it is followed. -/
def checkPath (text : String) : Except IoError Path :=
  if text.toList.contains (Char.ofNat 0) then .error .nulInPath
  else if maxPathBytes < text.utf8ByteSize then .error .nameTooLong
  else .ok (.parse text)

/-- Make a directory with the directories that lead to it. The empty path is the working
    directory. -/
def makeDirAll (t : FileTree) (text : String) : Except IoError Unit × FileTree :=
  if text = "" then (.ok (), t)
  else
    match checkPath text with
    | .error e => (.error e, t)
    | .ok p => t.makeDirChain (p :: p.ancestors)

/-! ## Files -/

/-- Write a file anew, in a directory that is there. -/
def writeFile (t : FileTree) (text : String) (content : ByteArray) : Except IoError FileTree :=
  match checkPath text with
  | .error e => .error e
  | .ok p =>
    match t.approach p with
    | .error e => .error e
    | .ok .directory => .error .isADirectory
    | .ok (.name place name slashed) =>
      if slashed then .error .isADirectory
      else
        match t.entry place name with
        | .error e => .error e
        | .ok (some .directory) => .error .isADirectory
        | .ok _ => .ok (t.set (place ++ [name]) (.file content))

/-- The bytes of a file. -/
def readFile (t : FileTree) (text : String) : Except IoError ByteArray :=
  match checkPath text with
  | .error e => .error e
  | .ok p =>
    match t.stat p with
    | .error e => .error e
    | .ok .directory => .error .isADirectory
    | .ok (.file content) => .ok content

/-- The text of a file. -/
def readText (t : FileTree) (text : String) : Except IoError String :=
  match t.readFile text with
  | .error e => .error e
  | .ok content =>
    match String.fromUTF8? content with
    | some s => .ok s
    | none => .error .notUtf8

/-- The directory where a path leads, as a location. -/
def directoryAt? (t : FileTree) (p : Path) : Option Location :=
  (t.walk (startOf p) p.segments).toOption

/-! ## Building and listing -/

/-- The path of a location, below the working directory. -/
def pathOf (place : Location) : String :=
  String.intercalate "/" place

/-- A tree with the given files, and directories where there is no content. The directories that
    lead to a path are made with it. -/
def ofList : List (String × Option ByteArray) → FileTree
  | [] => .empty
  | (path, content?) :: rest =>
    let place := (Path.parse path).components.filter (· ≠ ".")
    let t := (List.range place.length).foldl
      (fun t n => if (t.node? (place.take n)).isSome then t else t.set (place.take n) .directory)
      (ofList rest)
    t.set place (content?.elim .directory .file)

/-- What a tree holds inside the working directory. -/
def toList (t : FileTree) : List (String × Option ByteArray) :=
  t.nodes.filterMap fun (place, node) =>
    if place.head? = some ".." || place.head? = some "/" then none
    else
      match node with
      | .directory => some (pathOf place, none)
      | .file content => some (pathOf place, some content)

end FileTree

end VisitorGen
