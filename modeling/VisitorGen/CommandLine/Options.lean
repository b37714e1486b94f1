import VisitorGen.Target.Basic

set_option autoImplicit false

/-! # Command line options

What a command line asks for: a language with its options, where the grammars come from and where
the units go, and how much is reported on the way. Without a command the built-in families are
generated for C# in the working directory. -/

namespace VisitorGen.CommandLine

/-- The options of every command. -/
structure Output where
  /-- Patterns for the grammar files; the built-in tables if there are none. -/
  grammar : List String
  /-- The directory for the units. -/
  outDir : String
  /-- Whether the units go to the standard output instead. -/
  stdout : Bool
  /-- Whether the options are only shown. -/
  showOnly : Bool
  deriving DecidableEq, Repr

/-- The options when none are given. -/
def Output.default : Output := ⟨[], ".", false, false⟩

/-- A language with its options. -/
inductive Command where
  | csharp (output : Output) (space : String)
  | rust (output : Output) (derives : List String)
  deriving DecidableEq, Repr

/-- A command line. -/
structure Invocation where
  command : Option Command
  verbosity : Nat
  deriving DecidableEq, Repr

/-- The options of a command that are common to all. -/
def Command.output : Command → Output
  | .csharp output _ => output
  | .rust output _ => output

/-- Why a command line asks for no run. -/
inductive Stop where
  /-- The command line cannot be understood. -/
  | misuse
  | help
  | version
  deriving DecidableEq, Repr

end VisitorGen.CommandLine
