import VisitorGen.FileTree.Access
import VisitorGen.Outlet.Basic

set_option autoImplicit false

/-! # Directories

Each unit becomes a file of the directory, written anew if it is there. The directory and those
that lead to it are made when the first unit arrives. -/

namespace VisitorGen

/-- The path of a unit's file in a directory. -/
def SourceUnit.pathIn (u : SourceUnit) (dir : String) : String :=
  Path.join dir u.fileName

/-- The outlet that writes into a directory. Its state is the file tree. -/
def Outlet.directory (dir : String) : Outlet FileTree where
  write t u :=
    match t.makeDirAll dir with
    | (.error e, t') => (.error e, t')
    | (.ok (), t') =>
      match t'.writeFile (u.pathIn dir) u.source.toUTF8 with
      | .error e => (.error e, t')
      | .ok written => (.ok (), written)

end VisitorGen
