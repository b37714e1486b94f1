import VisitorGen.Batch
import VisitorGen.Log.Basic
import VisitorGen.Outlet.Directory

set_option autoImplicit false

/-! # The journal of a run

What the log says about a run: each variant as it is laid out, each file as it is written, and what
became of each family. -/

namespace VisitorGen.CommandLine

open Log

/-- Where the units of a run go. -/
inductive Destination where
  | stdout
  | directory (dir : String)
  deriving DecidableEq, Repr

/-- The events of laying out a family. -/
def layoutEvents (family : Family) : List Event :=
  family.variants.map fun v =>
    ⟨.debug, "astgen::family", family.name ++ ": emitting variant " ++ v.name⟩

/-- The events of writing a unit. Only files are worth one. -/
def writeEvents (u : SourceUnit) : Destination → List Event
  | .stdout => []
  | .directory dir =>
    [⟨.info, "astgen::sink",
      "wrote " ++ u.pathIn dir ++ " (" ++ u.source.utf8ByteSize.repr ++ " bytes)"⟩]

/-- The events of one table, from its outcome. -/
def outcomeEvents (t : Target) (destination : Destination) (o : Outcome) : List Event :=
  let layout :=
    match t.readFamily o.table.family o.table.rules with
    | .ok family => layoutEvents family
    | .error _ => []
  layout ++
    match o.result with
    | .ok u =>
      writeEvents u destination ++
        [⟨.info, "astgen::driver",
          o.table.family ++ ": " ++ o.table.rules.length.repr ++ " variants → " ++ u.fileName⟩]
    | .error e => [⟨.error, "astgen::driver", o.table.family ++ ": " ++ e.message⟩]

/-- The events of a run. -/
def journal (t : Target) (destination : Destination) (outcomes : List Outcome) : List Event :=
  outcomes.flatMap (outcomeEvents t destination)

end VisitorGen.CommandLine
