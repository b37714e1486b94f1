import VisitorGen.Text.ControlSequence

set_option autoImplicit false

/-! # Log events

Each part of the program reports what it does as events of some severity. An event is shown as one
record, whose message may take several lines and is shown without control sequences. -/

namespace VisitorGen.Log

/-- The severity of an event, the gravest first. -/
inductive Level where
  | error
  | warn
  | info
  | debug
  | trace
  deriving DecidableEq, Repr

/-- The rank of a level: how much is shown if events up to this level are. -/
def Level.rank : Level → Nat
  | .error => 1
  | .warn => 2
  | .info => 3
  | .debug => 4
  | .trace => 5

/-- The name of a level, at the width of the longest one. -/
def Level.text : Level → String
  | .error => "ERROR"
  | .warn => "WARN "
  | .info => "INFO "
  | .debug => "DEBUG"
  | .trace => "TRACE"

/-- Something that a part of the program reports. -/
structure Event where
  level : Level
  source : String
  message : String
  deriving DecidableEq, Repr

/-- A message whose lines after the first are set in by four blanks. -/
def hang (message : List Char) : List Char :=
  message.flatMap fun c => if c = '\n' then ['\n', ' ', ' ', ' ', ' '] else [c]

/-- The record of an event. -/
def Event.text (e : Event) : String :=
  let line := "[" ++ e.level.text ++ " " ++ e.source ++ "] "
  String.ofList (Text.withoutControls (line.toList ++ hang e.message.toList ++ ['\n']))

end VisitorGen.Log
