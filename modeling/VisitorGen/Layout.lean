set_option autoImplicit false

/-! # Indented layout

Source text is laid out by four kinds of step: a line at the current level, a line that opens a
deeper level, a line that returns to the level above, and a blank line. A target describes its
output as a list of steps; a *sheet* is the text written so far together with the level. -/

namespace VisitorGen

/-- One step of a layout. -/
inductive Step where
  /-- A line at the current level. -/
  | line (text : String)
  /-- A line at the current level, after which the level is one deeper. -/
  | opening (text : String)
  /-- A line at the level above, which becomes the current one. -/
  | closing (text : String)
  /-- An empty line. -/
  | blank
  deriving DecidableEq, Repr

/-- Text in the making: what is written, how deep the next line stands, and the indentation of one
    level. -/
structure Sheet where
  text : String
  level : Nat
  unit : String
  deriving DecidableEq, Repr

/-- An empty sheet. -/
def Sheet.empty (unit : String) : Sheet := ⟨"", 0, unit⟩

/-- The indentation of a level. -/
def indentation (unit : String) : Nat → String
  | 0 => ""
  | n + 1 => unit ++ indentation unit n

/-- A text as a line at a level. Only its start is indented, and an empty text not at all. -/
def lineText (unit : String) (level : Nat) (text : String) : String :=
  if text.isEmpty then "\n" else indentation unit level ++ text ++ "\n"

/-- The level after a step. The level above the outermost one is the outermost one. -/
def Step.levelAfter (level : Nat) : Step → Nat
  | .line _ => level
  | .opening _ => level + 1
  | .closing _ => level - 1
  | .blank => level

/-- The text that a step writes at a level. -/
def Step.textAt (unit : String) (level : Nat) : Step → String
  | .line text => lineText unit level text
  | .opening text => lineText unit level text
  | .closing text => lineText unit (level - 1) text
  | .blank => "\n"

/-- A sheet after one more step. -/
def Sheet.apply (s : Sheet) (step : Step) : Sheet :=
  { s with text := s.text ++ step.textAt s.unit s.level, level := step.levelAfter s.level }

/-- A sheet after some steps. -/
def Sheet.run (s : Sheet) (steps : List Step) : Sheet :=
  steps.foldl Sheet.apply s

end VisitorGen
