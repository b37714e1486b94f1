import VisitorGen.CommandLine.Options

set_option autoImplicit false

/-! # Reading the command line

Arguments are read from left to right. An option that takes values is *pending* until the next
option, or the end, shows that it has all of them; only then is it checked. A request for help or
for the version ends the reading at once, unless something before it is wrong. -/

namespace VisitorGen.CommandLine

/-! ## Options and their values -/

/-- An option that takes values. -/
inductive Valued where
  | grammar
  | outDir
  | space
  | derives
  deriving DecidableEq, Repr

/-- An option without values. -/
inductive Flag where
  | verbose
  | help
  | version
  | stdout
  | showOnly
  deriving DecidableEq, Repr

/-- Where an argument stands: before the command or behind it. -/
inductive Scope where
  | top
  | command (language : Language)
  deriving DecidableEq, Repr

/-- The flag with a long name. -/
def Scope.longFlag? (scope : Scope) (name : String) : Option Flag :=
  match scope, name with
  | _, "verbose" => some .verbose
  | _, "help" => some .help
  | .top, "version" => some .version
  | .command _, "stdout" => some .stdout
  | .command _, "no-op" => some .showOnly
  | _, _ => none

/-- The option with values that has a long name. -/
def Scope.longValued? (scope : Scope) (name : String) : Option Valued :=
  match scope, name with
  | .command _, "grammar" => some .grammar
  | .command _, "out-dir" => some .outDir
  | .command .csharp, "namespace" => some .space
  | .command .rust, "derive" => some .derives
  | _, _ => none

/-- The flag with a letter. -/
def Scope.shortFlag? (scope : Scope) (letter : Char) : Option Flag :=
  match scope, letter with
  | _, 'v' => some .verbose
  | _, 'h' => some .help
  | .top, 'V' => some .version
  | _, _ => none

/-- The option with values that has a letter. -/
def Scope.shortValued? (scope : Scope) (letter : Char) : Option Valued :=
  match scope, letter with
  | .command _, 'g' => some .grammar
  | .command _, 'o' => some .outDir
  | _, _ => none

/-! ## What has been read -/

/-- The options read so far, and the one whose values are still being read. -/
structure Draft where
  verbose : Nat
  grammar : List String
  outDir : Option String
  stdout : Bool
  showOnly : Bool
  space : Option String
  derives : Option (List String)
  pending : Option (Valued × List String)
  deriving Repr

/-- Nothing read yet. -/
def Draft.empty : Draft := ⟨0, [], none, false, false, none, none, none⟩

/-- The greatest number of times that an option is counted. -/
def maxCount : Nat := 255

/-- A list of values between commas. -/
def commaList (text : String) : List String :=
  (text.toList.splitOn ',').map String.ofList

/-- Take an option with its values. Only grammars may have several, and only lists may be given
    again; a directory must have a name. -/
def Draft.take (d : Draft) (option : Valued) (values : List String) : Except Stop Draft :=
  match option, values with
  | _, [] => .error .misuse
  | .grammar, vs => .ok { d with grammar := d.grammar ++ vs }
  | .outDir, [v] =>
    if v = "" || d.outDir.isSome then .error .misuse else .ok { d with outDir := some v }
  | .space, [v] => if d.space.isSome then .error .misuse else .ok { d with space := some v }
  | .derives, [v] => .ok { d with derives := some (d.derives.getD [] ++ commaList v) }
  | _, _ => .error .misuse

/-- Take the pending option, if there is one. -/
def Draft.settle (d : Draft) : Except Stop Draft :=
  match d.pending with
  | none => .ok d
  | some (option, values) => ({ d with pending := none } : Draft).take option values

/-- Read a flag. Switches may be given once. -/
def Draft.readFlag (d : Draft) (flag : Flag) : Except Stop Draft :=
  match d.settle with
  | .error stop => .error stop
  | .ok d =>
    match flag with
    | .verbose => .ok { d with verbose := min (d.verbose + 1) maxCount }
    | .help => .error .help
    | .version => .error .version
    | .stdout => if d.stdout then .error .misuse else .ok { d with stdout := true }
    | .showOnly => if d.showOnly then .error .misuse else .ok { d with showOnly := true }

/-- Read an option with values, of which the first may be attached to it; then it is the only
    one. -/
def Draft.readValued (d : Draft) (option : Valued) (attached : Option String) :
    Except Stop Draft :=
  match d.settle with
  | .error stop => .error stop
  | .ok d =>
    match attached with
    | some v => d.take option [v]
    | none => .ok { d with pending := some (option, []) }

/-- Read an argument that is no option: a value of the pending one. -/
def Draft.readValue (d : Draft) (value : String) : Except Stop Draft :=
  match d.pending with
  | some (option, values) =>
    if values.isEmpty || option = .grammar then
      .ok { d with pending := some (option, values ++ [value]) }
    else .error .misuse
  | none => .error .misuse

/-! ## Arguments -/

/-- A long option's name, and the value attached to it by an equals sign. -/
def splitEquals : List Char → List Char × Option (List Char)
  | [] => ([], none)
  | c :: cs =>
    if c = '=' then ([], some cs)
    else
      let (name, value) := splitEquals cs
      (c :: name, value)

/-- Read a long option behind its two dashes. -/
def Draft.readLong (d : Draft) (scope : Scope) (cs : List Char) : Except Stop Draft :=
  let (name, attached) := splitEquals cs
  let name := String.ofList name
  match scope.longFlag? name with
  | some flag => if attached.isSome then .error .misuse else d.readFlag flag
  | none =>
    match scope.longValued? name with
    | some option => d.readValued option (attached.map String.ofList)
    | none => .error .misuse

/-- The value attached to an option's letter, with an equals sign or without one. -/
def attachedValue : List Char → Option String
  | [] => none
  | '=' :: cs => some (String.ofList cs)
  | cs => some (String.ofList cs)

/-- Read letters behind a dash: flags, and at the end perhaps an option with values. -/
def Draft.readShort (d : Draft) (scope : Scope) : List Char → Except Stop Draft
  | [] => .ok d
  | c :: cs =>
    match scope.shortFlag? c with
    | some flag =>
      match d.readFlag flag with
      | .error stop => .error stop
      | .ok d => d.readShort scope cs
    | none =>
      match scope.shortValued? c with
      | some option => d.readValued option (attachedValue cs)
      | none => .error .misuse

/-- Read one argument other than a lone double dash. -/
def Draft.read (d : Draft) (scope : Scope) (arg : String) : Except Stop Draft :=
  match arg.toList with
  | '-' :: '-' :: cs => d.readLong scope cs
  | '-' :: c :: cs => d.readShort scope (c :: cs)
  | _ => d.readValue arg

/-- Read the arguments behind a command. Behind a double dash there would be only names, of which
    there are none. -/
def Draft.readAll (d : Draft) (scope : Scope) : List String → Except Stop Draft
  | [] => d.settle
  | arg :: rest =>
    if arg = "--" then
      if rest.isEmpty then d.settle else .error .misuse
    else
      match d.read scope arg with
      | .error stop => .error stop
      | .ok d => d.readAll scope rest

/-! ## Command lines -/

/-- The common options of a draft. -/
def Draft.output (d : Draft) : Output :=
  ⟨d.grammar, d.outDir.getD ".", d.stdout, d.showOnly⟩

/-- The command of a draft. -/
def Draft.command (d : Draft) : Language → Command
  | .csharp => .csharp d.output (d.space.getD CSharp.defaultSpace)
  | .rust => .rust d.output (d.derives.getD Rust.defaultDerives)

/-- The language of a command's name. -/
def language? (name : String) : Option Language :=
  match name with
  | "csharp" => some .csharp
  | "rust" => some .rust
  | _ => none

/-- A request for help on a command, or on none. -/
def readHelp : List String → Stop
  | [] => .help
  | [name] => if name = "help" || (language? name).isSome then .help else .misuse
  | _ => .misuse

/-- Read a command behind its name. Counts behind the command replace those before it. -/
def readCommand (before : Draft) (language : Language) (args : List String) :
    Except Stop Invocation :=
  match Draft.empty.readAll (.command language) args with
  | .error stop => .error stop
  | .ok d =>
    .ok ⟨some (d.command language), if d.verbose = 0 then before.verbose else d.verbose⟩

/-- Read a command line from some point before its command. -/
def readTop (d : Draft) : List String → Except Stop Invocation
  | [] => .ok ⟨none, d.verbose⟩
  | arg :: rest =>
    if arg = "help" then .error (readHelp rest)
    else
      match language? arg with
      | some language => readCommand d language rest
      | none =>
        if arg = "--" then
          if rest.isEmpty then .ok ⟨none, d.verbose⟩ else .error .misuse
        else
          match d.read .top arg with
          | .error stop => .error stop
          | .ok d => readTop d rest

/-- Read a command line. -/
def parse (args : List String) : Except Stop Invocation :=
  readTop .empty args

end VisitorGen.CommandLine
