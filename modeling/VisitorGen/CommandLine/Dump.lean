import VisitorGen.CommandLine.Options
import VisitorGen.Text.Quoted

set_option autoImplicit false

/-! # Showing the options

The parsed command line as nested records, one member to a line, for debugging. -/

namespace VisitorGen.CommandLine

/-! ## Records -/

/-- A value to be shown: a text on one line, or a head with members between brackets. -/
inductive Shown where
  | text (s : String)
  | group (head left right : String) (members : List (String × Shown))

/-- A value over several lines, behind a label, at a depth. Each member ends in a comma. -/
def Shown.lines (depth : Nat) (label : String) (tail : String) : Shown → List String
  | .text s => ["".pushn ' ' (4 * depth) ++ label ++ s ++ tail]
  | .group head left right members =>
    ["".pushn ' ' (4 * depth) ++ label ++ head ++ left] ++
    (members.attach.flatMap fun ⟨m, _⟩ => m.2.lines (depth + 1) m.1 ",") ++
    ["".pushn ' ' (4 * depth) ++ right ++ tail]
termination_by s => sizeOf s
decreasing_by
  rename_i h
  have hm := List.sizeOf_lt_of_mem h
  obtain ⟨label, shown⟩ := m
  simp only [Prod.mk.sizeOf_spec, Shown.group.sizeOf_spec] at hm ⊢
  omega

/-- A record with named members. -/
def record (name : String) (members : List (String × Shown)) : Shown :=
  .group name " \x7b" "\x7d" (members.map fun (n, s) => (n ++ ": ", s))

/-- A constructor with one argument. -/
def wrap (name : String) (argument : Shown) : Shown :=
  .group name "(" ")" [("", argument)]

/-- A list of texts, each between quotes. -/
def quotedList : List String → Shown
  | [] => .text "[]"
  | xs => .group "" "[" "]" (xs.map fun x => ("", .text (Text.quote x)))

/-- A truth value. -/
def truth (b : Bool) : Shown :=
  .text (if b then "true" else "false")

/-! ## Options -/

/-- The common options. -/
def Output.shown (o : Output) : Shown :=
  record "OutputSettings"
    [("grammar", quotedList o.grammar),
     ("out_dir", .text (Text.quote o.outDir)),
     ("stdout", truth o.stdout),
     ("no_op", truth o.showOnly)]

/-- A command with its options. -/
def Command.shown : Command → Shown
  | .csharp output space =>
    wrap "Csharp" (record "CSharpOut"
      [("output", output.shown), ("namespace", .text (Text.quote space))])
  | .rust output derives =>
    wrap "Rust" (record "RustOut"
      [("output", output.shown), ("derive", quotedList derives)])

/-- The text of a command line. -/
def Invocation.dump (i : Invocation) : String :=
  let shown := record "CommandLineInterface"
    [("cmd", match i.command with
      | none => .text "None"
      | some c => wrap "Some" c.shown),
     ("verbose", .text i.verbosity.repr)]
  String.join ((shown.lines 0 "" "").map (· ++ "\n"))

end VisitorGen.CommandLine
