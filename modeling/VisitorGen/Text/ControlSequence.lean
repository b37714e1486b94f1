set_option autoImplicit false

/-! # Text without control sequences

A terminal takes some characters as commands: an escape character opens a sequence whose form
depends on the characters that follow it, and most control characters are commands by themselves.
Text that is shown where no terminal reads it goes without them. Line ends, tabs and form feeds
stay, also those inside a sequence. -/

namespace VisitorGen.Text

/-- Which kind of sequence the scan of a text is in. -/
inductive ControlState where
  /-- Outside of any sequence. -/
  | plain
  /-- Behind the escape character. -/
  | escape
  /-- Behind the escape character and intermediate characters. -/
  | escapeIntermediate
  /-- Behind the bracket that opens a control sequence. -/
  | control
  /-- In the parameters of a control sequence. -/
  | controlParameter
  /-- In the intermediate characters of a control sequence. -/
  | controlIntermediate
  /-- In a control sequence of no known form. -/
  | controlIgnored
  /-- Behind the letter that opens a device control string. -/
  | device
  /-- In the parameters of a device control string. -/
  | deviceParameter
  /-- In the intermediate characters of a device control string. -/
  | deviceIntermediate
  /-- In a string that ends with a string terminator: the data of a device control string, a
      privacy message, an application command. -/
  | string
  /-- In an operating system command, which ends with a bell. -/
  | command
  deriving DecidableEq, Repr

/-- Whether a character is a line end, a tab or a form feed. -/
def isLayoutControl (c : Char) : Bool :=
  c = '\t' || c = '\n' || c = '\r' || c = Char.ofNat 0xC

/-- Whether a character outside of any sequence is shown. -/
def isShown (c : Char) : Bool :=
  0x80 ≤ c.toNat || (0x20 ≤ c.toNat && c.toNat < 0x7F) || isLayoutControl c

namespace ControlState

/-- Whether a character is shown in a state. In the middle of a string or a device control string
    nothing is. -/
def shows : ControlState → Char → Bool
  | .plain, c => isShown c
  | .escape, c | .escapeIntermediate, c => isLayoutControl c
  | .control, c | .controlParameter, c | .controlIntermediate, c | .controlIgnored, c =>
    isLayoutControl c
  | .device, _ | .deviceParameter, _ | .deviceIntermediate, _ | .string, _ | .command, _ => false

/-- The state behind the character that follows the escape character. -/
def afterEscape (c : Char) : ControlState :=
  if c = '[' then .control
  else if c = 'P' then .device
  else if c = ']' then .command
  else if c = 'X' || c = '^' || c = '_' then .string
  else .plain

/-- Whether one of the bytes of a character is the string terminator. -/
def endsString (c : Char) : Bool :=
  (String.utf8EncodeChar c).contains 0x9C

/-- Whether a character is between two code points. -/
def isWithin (c : Char) (first last : Nat) : Bool :=
  first ≤ c.toNat && c.toNat ≤ last

/-- The state after a character. The escape character opens a new sequence in any state, and the
    characters *cancel* and *substitute* end one. -/
def next (s : ControlState) (c : Char) : ControlState :=
  if c.toNat = 0x1B then .escape
  else if c.toNat = 0x18 || c.toNat = 0x1A then .plain
  else
    match s with
    | .plain => .plain
    | .escape =>
      if isWithin c 0x20 0x2F then .escapeIntermediate
      else if isWithin c 0x30 0x7E then afterEscape c
      else s
    | .escapeIntermediate => if isWithin c 0x30 0x7E then .plain else s
    | .control =>
      if isWithin c 0x20 0x2F then .controlIntermediate
      else if isWithin c 0x30 0x3F then .controlParameter
      else if isWithin c 0x40 0x7E then .plain
      else s
    | .controlParameter =>
      if isWithin c 0x20 0x2F then .controlIntermediate
      else if isWithin c 0x3C 0x3F then .controlIgnored
      else if isWithin c 0x40 0x7E then .plain
      else s
    | .controlIntermediate =>
      if isWithin c 0x30 0x3F then .controlIgnored
      else if isWithin c 0x40 0x7E then .plain
      else s
    | .controlIgnored => if isWithin c 0x40 0x7E then .plain else s
    | .device =>
      if isWithin c 0x20 0x2F then .deviceIntermediate
      else if isWithin c 0x30 0x3F then .deviceParameter
      else if isWithin c 0x40 0x7E then .string
      else s
    | .deviceParameter =>
      if isWithin c 0x20 0x2F then .deviceIntermediate
      else if isWithin c 0x3C 0x7E then .string
      else s
    | .deviceIntermediate => if isWithin c 0x30 0x7E then .string else s
    | .string => if endsString c then .plain else s
    | .command => if c.toNat = 0x07 then .plain else s

end ControlState

/-- A text without its control sequences, from a state on. A sequence that was interrupted by a
    character which is shown goes on behind the run of shown characters, up to the next character
    that is not ASCII. -/
def showFrom (showing : Bool) (s : ControlState) : List Char → List Char
  | [] => []
  | c :: cs =>
    if (if showing then isShown c else s.shows c) then
      c :: showFrom true (if 0x80 ≤ c.toNat then .plain else s) cs
    else showFrom false (s.next c) cs

/-- A text without its control sequences. -/
def withoutControls (cs : List Char) : List Char :=
  showFrom false .plain cs

end VisitorGen.Text
