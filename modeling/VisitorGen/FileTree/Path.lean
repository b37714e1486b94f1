set_option autoImplicit false

/-! # Paths

A path is text: segments between slashes. What the file system does with it depends on the text
itself, so that `out`, `out/` and `out/.` are different paths; paths are compared, and shortened to
their parents, by *components*, in which empty segments and inner dots do not count. -/

namespace VisitorGen

/-- A path taken apart at its slashes, behind the leading one if there is one. -/
structure Path where
  absolute : Bool
  segments : List String
  deriving DecidableEq, Repr

namespace Path

/-- Take a path apart. -/
def parse (text : String) : Path :=
  match text.toList with
  | '/' :: rest => ⟨true, (rest.splitOn '/').map String.ofList⟩
  | cs => ⟨false, (cs.splitOn '/').map String.ofList⟩

/-- The text of a path `below` another one. An absolute path stays as it is, and no second slash is
    put behind one. -/
def join (above below : String) : String :=
  if below.toList.head? = some '/' then below
  else
    match above.toList.getLast? with
    | none => below
    | some c => if c = '/' then above ++ below else above ++ "/" ++ below

/-! ## Components -/

/-- Whether a segment counts as a component, wherever it stands. -/
def counts (segment : String) : Bool :=
  segment ≠ "" && segment ≠ "."

/-- The segments that count: names and double dots, and a dot at the start of a relative path. -/
def components (p : Path) : List String :=
  match p.segments with
  | [] => []
  | s :: rest =>
    (if counts s || (s = "." && !p.absolute) then [s] else []) ++ rest.filter counts

/-- The order of components: the dot, the double dot, then names in the order of their
    characters. -/
def componentLt (a b : String) : Bool :=
  let rank (s : String) : Nat := if s = "." then 0 else if s = ".." then 1 else 2
  rank a < rank b || (rank a = rank b && a < b)

/-- Whether a list of components stands before another. -/
def componentsLt : List String → List String → Bool
  | _, [] => false
  | [], _ :: _ => true
  | a :: as, b :: bs => componentLt a b || (a = b && componentsLt as bs)

/-- Whether a path stands before another: absolute paths first, then by components. -/
def lt (p q : Path) : Bool :=
  if p.absolute = q.absolute then componentsLt p.components q.components else p.absolute

/-- The proper ancestors of a path, the nearest one first, without the empty path. -/
def ancestors (p : Path) : List Path :=
  (List.range p.components.length).reverse.filterMap fun n =>
    if n = 0 then none else some ⟨p.absolute, p.components.take n⟩

end Path

/-- Paths in order. Paths with equal components keep their places. -/
def sortPaths (paths : List String) : List String :=
  paths.mergeSort fun a b => !(Path.parse b).lt (Path.parse a)

end VisitorGen
