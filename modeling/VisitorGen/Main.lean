import VisitorGen.CommandLine.Run

set_option autoImplicit false

/-! # The program

The command line at work: the part of the file system that it can reach is read into a file tree,
the run is computed, and what it changed is written back. -/

namespace VisitorGen.Disk

/-! ## Reading the file system -/

/-- What a path stands for: a directory, a file whose content is left out, or nothing. -/
def lookAt (path : String) : IO (Option Node) := do
  try
    let p ← IO.FS.realPath path
    if ← p.isDir then return some .directory
    if ← p.pathExists then return some (.file ByteArray.empty)
    return none
  catch _ => return none

/-- The names in a directory. -/
def namesIn (path : String) : IO (List String) := do
  try
    let entries ← (← IO.FS.realPath path).readDir
    return (entries.map (·.fileName)).toList
  catch _ => return []

/-- The location behind one more segment of a path. -/
def follow (place : Location) (segment : String) : Location :=
  if segment = "" || segment = "." then place
  else if segment = ".." then place.parent
  else place ++ [segment]

/-- Put the node at a location into the tree, as the file system has it. -/
def observe (tree : FileTree) (place : Location) : IO FileTree := do
  if place.isBase || (tree.node? place).isSome then return tree
  match ← lookAt (FileTree.pathOf place) with
  | some node => return tree.set place node
  | none => return tree

/-- Put what lies below a directory into the tree, down to a depth. -/
partial def observeBelow (tree : FileTree) (place : Location) (depth : Nat) : IO FileTree := do
  if depth = 0 then return tree
  let dir := if place.isEmpty then "." else FileTree.pathOf place
  let mut tree := tree
  for name in ← namesIn dir do
    let inside := place ++ [name]
    tree ← observe tree inside
    if tree.node? inside = some .directory then
      tree ← observeBelow tree inside (depth - 1)
  return tree

/-- Put what a path or a pattern may lead to into the tree: every name on the way, and from the
    first wildcard on whole directories. -/
def observePath (tree : FileTree) (path : String) : IO FileTree := do
  let p := Path.parse path
  let mut tree := tree
  let mut place := FileTree.startOf p
  let mut left := p.segments.length
  for segment in p.segments do
    if segment.toList.any fun c => c = '*' || c = '?' || c = '[' then
      let depth := if path.toList.any (· = '*') then 64 else left
      return ← observeBelow tree place depth
    place := follow place segment
    tree ← observe tree place
    left := left - 1
  return tree

/-- Put the content of a file into the tree. -/
def observeContent (tree : FileTree) (path : String) : IO FileTree := do
  let p := Path.parse path
  let place := p.segments.foldl follow (FileTree.startOf p)
  match tree.node? place with
  | some (.file _) =>
    try return tree.set place (.file (← IO.FS.readBinFile path))
    catch _ => return tree
  | _ => return tree

/-- The tree that a command line can reach: its grammar files with their content, and the names in
    its output directory. -/
def observeFor (output : CommandLine.Output) : IO FileTree := do
  let mut tree := FileTree.empty
  for pattern in output.grammar do
    tree ← observePath tree pattern
  match expandPatterns tree output.grammar with
  | .ok paths =>
    for path in paths do
      tree ← observeContent tree path
  | .error _ => pure ()
  tree ← observePath tree output.outDir
  let p := Path.parse output.outDir
  observeBelow tree (p.segments.foldl follow (FileTree.startOf p)) 1

/-! ## Writing it back -/

/-- Make the file system hold what the tree holds, where it did not before. -/
def commit (before after : FileTree) : IO Unit := do
  for (place, node) in after.nodes do
    if before.node? place ≠ some node then
      match node with
      | .directory => IO.FS.createDirAll (FileTree.pathOf place)
      | .file content => IO.FS.writeBinFile (FileTree.pathOf place) content

end VisitorGen.Disk

open VisitorGen

/-- Run the command line on the file system. -/
def main (args : List String) : IO UInt32 := do
  let output := match CommandLine.parse args with
    | .ok i => (i.command.map (·.output)).getD .default
    | .error _ => .default
  let tree ← Disk.observeFor output
  let effects := CommandLine.run args (← IO.getEnv "RUST_LOG") tree
  Disk.commit tree effects.tree
  (← IO.getStdout).write effects.stdout
  match effects.stderr with
  | .usage => IO.eprint CommandLine.helpText
  | .text s => IO.eprint s
  return effects.code.toUInt32
