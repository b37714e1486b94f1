import VisitorGen.Outlet.Basic

set_option autoImplicit false

/-! # Streams

A stream takes the bytes of one unit after another, each under a banner that names its file. A
stream may have a capacity; when a unit does not fit, the bytes that do fit are written and the
write fails. -/

namespace VisitorGen

/-- What stands above a unit in a stream. -/
def SourceUnit.banner (u : SourceUnit) : String :=
  "// ---- " ++ u.fileName ++ " ----\n"

/-- A unit as it stands in a stream. -/
def SourceUnit.streamText (u : SourceUnit) : String :=
  u.banner ++ u.source

/-- Append bytes as far as the capacity allows, and say whether all of them fitted. -/
def appendWithin (capacity : Option Nat) (written more : ByteArray) :
    Except IoError Unit × ByteArray :=
  match capacity with
  | none => (.ok (), written ++ more)
  | some n =>
    if written.size + more.size ≤ n then (.ok (), written ++ more)
    else (.error .full, written ++ more.extract 0 (n - written.size))

/-- The stream with a capacity in bytes, or without one. Its state is what has been written. -/
def Outlet.stream (capacity : Option Nat) : Outlet ByteArray where
  write written u := appendWithin capacity written u.streamText.toUTF8

end VisitorGen
