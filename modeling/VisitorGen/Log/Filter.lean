import VisitorGen.Log.Basic
import VisitorGen.Regex.Basic
import VisitorGen.Text.Blank

set_option autoImplicit false

/-! # Log filters

A filter is a list of directives, each of which lets events of a source through up to some level.
The directive with the longest name that the source starts with decides; a directive without a
name is for every source. Filters are written as directives between commas, such as
`warn,parser=debug`. Behind a slash stands an expression that messages must match. -/

namespace VisitorGen.Log

/-! ## Directives -/

/-- How much is let through, and from where. A limit of zero is nothing at all. -/
structure Directive where
  name : Option String
  limit : Nat
  deriving DecidableEq, Repr

/-- The limit that lets every event through. -/
def everything : Nat := 5

/-- A filter: its directives, and an expression that a message must match to be let through. -/
structure Filter where
  directives : List Directive
  pattern : Option Regex.Expr

/-- The directives after one is set: in place of the one with the same name, or at the end. -/
def setDirective (d : Directive) : List Directive → List Directive
  | [] => [d]
  | e :: rest => if e.name = d.name then d :: rest else e :: setDirective d rest

/-- The length of a directive's name in bytes. -/
def Directive.weight (d : Directive) : Nat :=
  (d.name.getD "").utf8ByteSize

/-- Whether a directive is for a source. -/
def Directive.covers (d : Directive) (source : String) : Bool :=
  match d.name with
  | none => true
  | some name => name.toList.isPrefixOf source.toList

/-- The directive that decides on a source: the weightiest that covers it, and of several the last
    one. -/
def Filter.deciding? (f : Filter) (source : String) : Option Directive :=
  f.directives.foldl
    (fun best d =>
      if d.covers source && best.all (fun (b : Directive) => b.weight ≤ d.weight) then some d
      else best)
    none

/-- Whether a filter lets an event through. -/
def Filter.admits (f : Filter) (e : Event) : Bool :=
  (f.deciding? e.source).any (fun d => e.level.rank ≤ d.limit) &&
    f.pattern.all (·.matchesIn e.message.toList)

/-! ## Reading filters -/

/-- The limit of a level's name, in either case of letters. -/
def limit? (name : String) : Option Nat :=
  match String.ofList (name.toList.map Char.toUpper) with
  | "OFF" => some 0
  | "ERROR" => some 1
  | "WARN" => some 2
  | "INFO" => some 3
  | "DEBUG" => some 4
  | "TRACE" => some 5
  | _ => none

/-- A text between separators, taken apart. -/
def parts (separator : Char) (text : String) : List String :=
  (text.toList.splitOn separator).map String.ofList

/-- A text without blanks at its ends. -/
def trimmed (text : String) : String :=
  String.ofList (Text.trim text.toList)

/-- Read one directive: a limit, a name, or both around an equals sign. The error is the text that
    cannot be read. -/
def Directive.read (text : String) : Except String Directive :=
  match parts '=' text with
  | [one] =>
    match limit? one with
    | some limit => .ok ⟨none, limit⟩
    | none => .ok ⟨some one, everything⟩
  | [name, second] =>
    let second := trimmed second
    if second = "" then .ok ⟨some name, everything⟩
    else
      match limit? second with
      | some limit => .ok ⟨some name, limit⟩
      | none => .error second
  | _ => .error text

/-- A filter as it is written: its directives, its expression, and what cannot be read of it. -/
structure Written where
  directives : List Directive
  pattern : Option Regex.Expr
  complaints : List String

/-- Read directives, with the complaints about those that cannot be read. -/
def readDirectives : List String → List Directive × List String
  | [] => ([], [])
  | text :: rest =>
    let (directives, complaints) := readDirectives rest
    let text := trimmed text
    if text = "" then (directives, complaints)
    else
      match Directive.read text with
      | .ok d => (d :: directives, complaints)
      | .error bad => (directives, ("invalid logging spec '" ++ bad ++ "'") :: complaints)

/-- Read a filter. One with two slashes is not read at all. -/
def Written.read (text : String) : Written :=
  match parts '/' text with
  | [] => ⟨[], none, []⟩
  | [directives] =>
    let (ds, complaints) := readDirectives (parts ',' directives)
    ⟨ds, none, complaints⟩
  | [directives, pattern] =>
    let (ds, complaints) := readDirectives (parts ',' directives)
    match Regex.Expr.read pattern with
    | .ok e => ⟨ds, some e, complaints⟩
    | .error refusal =>
      ⟨ds, none, complaints ++ ["invalid regex filter - " ++ refusal.message pattern]⟩
  | _ => ⟨[], none, ["invalid logging spec '" ++ text ++ "' (too many '/'s)"]⟩

/-- The warning about something that cannot be read. -/
def warningText (complaint : String) : String :=
  "warning: " ++ complaint ++ ", ignoring it\n"

/-- The filter that lets events through up to a limit, overridden by a written filter if there is
    one. The written filter is taken before the limit is set and once more after it, so each warning
    comes twice, and a directive with an empty name gives way to the limit. -/
def Filter.of (limit : Nat) : Option String → Filter × List String
  | none => (⟨[⟨none, limit⟩], none⟩, [])
  | some text =>
    let w := Written.read text
    let directives := w.directives ++ [⟨none, limit⟩] ++ w.directives
    let warnings := (w.complaints ++ w.complaints).map warningText
    (⟨directives.foldl (fun ds d => setDirective d ds) [], w.pattern⟩, warnings)

end VisitorGen.Log
