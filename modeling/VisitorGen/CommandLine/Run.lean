import VisitorGen.CommandLine.Dump
import VisitorGen.CommandLine.Journal
import VisitorGen.CommandLine.Parse
import VisitorGen.Log.Filter
import VisitorGen.Outlet.Stream
import VisitorGen.Table.Builtin
import VisitorGen.Table.Load

set_option autoImplicit false

/-! # Running a command line

A run takes the arguments, the written log filter and the file tree, and gives the exit code, the
text on both output channels and the tree after it. The code is 0 if all went well, 1 if a family
failed, and 2 if nothing could be generated at all. -/

namespace VisitorGen.CommandLine

/-- What is written on the error channel. -/
inductive Diagnostics where
  /-- How the command line is to be used. -/
  | usage
  | text (s : String)
  deriving DecidableEq, Repr

/-- The effects of a run. -/
structure Effects where
  code : Nat
  stdout : ByteArray
  stderr : Diagnostics
  tree : FileTree

/-! ## Texts -/

/-- The name and version of the program. -/
def versionText : String := "astgen 0.1.0\n"

/-- The help text. -/
def helpText : String :=
  String.join (List.map (· ++ "\n")
    ["generate visitor-pattern AST hierarchies from family grammar tables",
     "",
     "Usage: astgen [OPTIONS] [COMMAND]",
     "",
     "Commands:",
     "  csharp  emit C# abstract classes with a nested IVisitor<R> interface",
     "  rust    emit a Rust visitor trait, base enum and one struct per variant",
     "  help    print this message",
     "",
     "Options:",
     "  -v, --verbose...  more logging (-v info, -vv debug, -vvv trace)",
     "  -h, --help        print help",
     "  -V, --version     print version",
     "",
     "Options of a command:",
     "  -g, --grammar <GRAMMAR>...   JSON grammar files, or glob patterns",
     "  -o, --out-dir <OUT_DIR>      output directory [default: .]",
     "      --stdout                 print every unit instead of writing files",
     "      --no-op                  print the parsed command line and exit",
     "      --namespace <NAMESPACE>  namespace of the C# classes [default: cslox]",
     "      --derive <DERIVE>        derives of the Rust types [default: Debug,Clone,PartialEq]"])

/-- The summary of a run: a line for each file and each failed family. -/
def summary (r : Report) : String :=
  String.join (r.written.map fun file => "✅ " ++ file ++ "\n") ++
    String.join (r.failures.map fun f => "❌ " ++ f.family ++ ": " ++ f.error.message ++ "\n")

/-! ## From options to a run -/

/-- The target of a command. -/
def Command.target : Command → Target
  | .csharp _ space => .csharp ⟨space⟩
  | .rust _ derives => .rust ⟨derives.map Log.trimmed⟩

/-- The target without a command. -/
def defaultTarget : Target := .csharp ⟨CSharp.defaultSpace⟩

/-- How much is logged, by the count of `-v`. -/
def logLimit (verbosity : Nat) : Nat := min (verbosity + 2) Log.everything

/-- The tables to generate: those of the grammar files, or the built-in ones. -/
def tablesFor (tree : FileTree) (target : Target) (output : Output) :
    Except LoadError (List Table) :=
  if output.grammar.isEmpty then .ok (builtinTables target.language)
  else Table.loadAll tree output.grammar

/-- Where the units go. -/
def Output.destination (o : Output) : Destination :=
  if o.stdout then .stdout else .directory o.outDir

/-- Generate tables: the outcomes, the bytes for the standard output, and the tree. -/
def generateTo (tree : FileTree) (target : Target) (tables : List Table) :
    Destination → List Outcome × ByteArray × FileTree
  | .stdout =>
    let (outcomes, written) := target.deliverAll (.stream none) ByteArray.empty tables
    (outcomes, written, tree)
  | .directory dir =>
    let (outcomes, tree') := target.deliverAll (.directory dir) tree tables
    (outcomes, ByteArray.empty, tree')

/-- Load and generate. `warnings` have been written before, and `filter` says what is logged. -/
def generateAll (tree : FileTree) (target : Target) (output : Output) (filter : Log.Filter)
    (warnings : String) : Effects :=
  match tablesFor tree target output with
  | .error e =>
    ⟨2, ByteArray.empty, .text (warnings ++ "error: " ++ e.message ++ "\n"), tree⟩
  | .ok tables =>
    let (outcomes, written, tree') := generateTo tree target tables output.destination
    let report := Report.of outcomes
    let events := (journal target output.destination outcomes).filter filter.admits
    ⟨if report.allWritten then 0 else 1, written,
      .text (warnings ++ String.join (events.map (·.text)) ++ summary report), tree'⟩

/-- Run a command line that has been understood. -/
def Invocation.run (i : Invocation) (logFilter : Option String) (tree : FileTree) : Effects :=
  let (filter, warnings) := Log.Filter.of (logLimit i.verbosity) logFilter
  let warnings := String.join warnings
  match i.command with
  | none => generateAll tree defaultTarget .default filter warnings
  | some c =>
    if c.output.showOnly then ⟨0, ByteArray.empty, .text (warnings ++ i.dump), tree⟩
    else generateAll tree c.target c.output filter warnings

/-- Run a command line. -/
def run (args : List String) (logFilter : Option String) (tree : FileTree) : Effects :=
  match parse args with
  | .ok i => i.run logFilter tree
  | .error .misuse => ⟨2, ByteArray.empty, .usage, tree⟩
  | .error .help => ⟨0, helpText.toUTF8, .text "", tree⟩
  | .error .version => ⟨0, versionText.toUTF8, .text "", tree⟩

end VisitorGen.CommandLine
