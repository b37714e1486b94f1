set_option autoImplicit false

/-! # File trees

A file tree says what is in a working directory, and around it as far as paths lead there: which
names are directories, and what bytes the files hold. A *location* is a path without detours. The
tree is given by its look-up, and each operation by what it does to that. -/

namespace VisitorGen

/-- What a name in a tree stands for. -/
inductive Node where
  | directory
  | file (content : ByteArray)

instance : DecidableEq Node
  | .directory, .directory => isTrue rfl
  | .directory, .file _ => isFalse nofun
  | .file _, .directory => isFalse nofun
  | .file a, .file b => @decidable_of_iff _ (a = b) (by simp) (ByteArray.instDecidableEq a b)

/-- The names that lead to a node from the working directory. Nodes outside it have `..` in front,
    and nodes below the root of the file system have `/`. -/
abbrev Location := List String

namespace Location

/-- Whether a location is the working directory, a directory around it, or the root. -/
def isBase (place : Location) : Bool :=
  place = ["/"] || place.all (· = "..")

/-- The location of the parent directory. -/
def parent (place : Location) : Location :=
  if place = ["/"] then place
  else if place.all (· = "..") then place ++ [".."]
  else place.dropLast

end Location

/-- The nodes of a tree, each with its location. -/
structure FileTree where
  nodes : List (Location × Node)
  deriving DecidableEq

/-- The first node listed for a location. -/
def findNode (place : Location) : List (Location × Node) → Option Node
  | [] => none
  | (l, n) :: rest => if l = place then some n else findNode place rest

/-- A list of nodes after one is set. -/
def setNode (place : Location) (node : Node) : List (Location × Node) → List (Location × Node)
  | [] => [(place, node)]
  | (l, n) :: rest => if l = place then (l, node) :: rest else (l, n) :: setNode place node rest

namespace FileTree

/-- A tree with nothing in it. -/
def empty : FileTree := ⟨[]⟩

/-- What is at a location. The base directories are always there. -/
def node? (t : FileTree) (place : Location) : Option Node :=
  if place.isBase then some .directory else findNode place t.nodes

/-- The tree with a node put at a location, in place of what was there. -/
def set (t : FileTree) (place : Location) (node : Node) : FileTree :=
  ⟨setNode place node t.nodes⟩

/-- The names in the directory at a location. -/
def children (t : FileTree) (place : Location) : List String :=
  t.nodes.filterMap fun (l, _) =>
    if l ≠ [] && l.dropLast = place && !Location.isBase l then l.getLast? else none

/-- The locations below a location, at any depth. -/
def descendants (t : FileTree) (place : Location) : List Location :=
  (t.nodes.map (·.1)).filter fun l =>
    place.isPrefixOf l && l ≠ place && (l.drop place.length).all fun s => s ≠ ".." && s ≠ "/"

end FileTree

/-! ## Look-up -/

theorem findNode_setNode (place l : Location) (node : Node) (nodes : List (Location × Node)) :
    findNode l (setNode place node nodes) = if l = place then some node else findNode l nodes := by
  induction nodes with
  | nil =>
    by_cases h : place = l
    · simp [setNode, findNode, h]
    · simp [setNode, findNode, h, Ne.symm h]
  | cons p rest ih =>
    obtain ⟨k, n⟩ := p
    by_cases hk : k = place
    · subst hk
      by_cases h : k = l
      · simp [setNode, findNode, h]
      · simp [setNode, findNode, h, Ne.symm h]
    · by_cases h : k = l
      · subst h
        simp [setNode, findNode, hk]
      · simp [setNode, findNode, hk, h, ih]

/-- Setting a node shows at its location, which must not be a base directory, and nowhere else. -/
theorem FileTree.node?_set (t : FileTree) {place : Location} (h : place.isBase = false)
    (node : Node) (l : Location) :
    (t.set place node).node? l = if l = place then some node else t.node? l := by
  by_cases hl : l = place
  · subst hl
    simp [node?, set, h, findNode_setNode]
  · simp [node?, set, findNode_setNode, hl]

end VisitorGen
