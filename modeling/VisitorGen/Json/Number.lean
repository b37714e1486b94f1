import VisitorGen.Json.Literal

set_option autoImplicit false

/-! # JSON numbers

A number never belongs in a grammar file, but a message shows the one that stands there. Integers
of 64 bits are exact. Any other number is the floating-point product, or quotient, of its leading
digits and a power of ten: digits that do not fit into 64 bits are dropped. -/

namespace VisitorGen.Json

/-! ## Digits -/

/-- Digits as they are read: the number they make up, how many went into it, how many were dropped
    because the number would not fit into 64 bits, and the text after them. -/
structure Digits where
  significand : Nat
  kept : Nat
  dropped : Nat
  rest : List Char

/-- Read digits to the end; once one is dropped, all are. -/
def readDigits (significand kept dropped : Nat) : List Char → Digits
  | [] => ⟨significand, kept, dropped, []⟩
  | c :: cs =>
    if c.isDigit then
      let longer := significand * 10 + (c.toNat - '0'.toNat)
      if dropped = 0 && longer < Nat.pow 2 64 then readDigits longer (kept + 1) 0 cs
      else readDigits significand kept (dropped + 1) cs
    else ⟨significand, kept, dropped, c :: cs⟩

/-! ## Powers of ten -/

/-- A power of ten as a floating-point number, up to the greatest finite one. -/
def powerOfTen (k : Nat) : Float :=
  Float.ofScientific 1 false k

/-- A number times a power of ten, or nothing if it is too large. A quotient by a large power is
    taken in steps; a few of them reach zero. -/
def scale : Nat → Float → Int → Option Float
  | 0, x, _ => some x
  | steps + 1, x, e =>
    if e.natAbs ≤ 308 then
      if e < 0 then some (x / powerOfTen e.natAbs)
      else
        let y := x * powerOfTen e.natAbs
        if y.isInf then none else some y
    else if x == 0.0 then some x
    else if 0 ≤ e then none
    else scale steps (x / powerOfTen 308) (e + 308)

/-- The floating-point number with a sign, leading digits and a decimal exponent. -/
def readScaled (negative : Bool) (significand : Nat) (e : Int) (rest : List Char) :
    Reading Found :=
  match scale 4 significand.toUInt64.toFloat e with
  | some x => .ok (.float (if negative then -x else x), rest)
  | none => .error (.behind .numberOutOfRange rest)

/-! ## Parts of a number -/

/-- Read the digits of an exponent after `e`. It stops behind the digit with which the exponent
    leaves 32 bits, and gives the text from there on. -/
def readExponentDigits (e : Nat) : List Char → Except (List Char) (Nat × List Char)
  | [] => .ok (e, [])
  | c :: cs =>
    if c.isDigit then
      let longer := e * 10 + (c.toNat - '0'.toNat)
      if longer < Nat.pow 2 31 then readExponentDigits longer cs else .error cs
    else .ok (e, c :: cs)

/-- Read an exponent after its `e`, for a number whose exponent so far is `scaled`. -/
def readExponent (negative : Bool) (significand : Nat) (scaled : Int) (cs : List Char) :
    Reading Found :=
  let (down, cs) :=
    match cs with
    | '+' :: rest => (false, rest)
    | '-' :: rest => (true, rest)
    | _ => (false, cs)
  match cs with
  | [] => .error (.behind .endInValue [])
  | c :: _ =>
    if c.isDigit then
      match readExponentDigits 0 cs with
      | .ok (e, rest) =>
        readScaled negative significand (if down then scaled - e else scaled + e) rest
      | .error rest =>
        if significand ≠ 0 && !down then .error (.behind .numberOutOfRange rest)
        else .ok (.float (if negative then -0.0 else 0.0), rest.dropWhile Char.isDigit)
    else .error (.next .invalidNumber cs)

/-- Read what may follow the digits of a number: an exponent or nothing. -/
def readTail (negative : Bool) (significand : Nat) (scaled : Int) (cs : List Char) :
    Reading Found :=
  match cs with
  | c :: rest =>
    if c = 'e' || c = 'E' then readExponent negative significand scaled rest
    else readScaled negative significand scaled cs
  | [] => readScaled negative significand scaled cs

/-- Read a fraction after its point. -/
def readFraction (negative : Bool) (significand : Nat) (scaled : Int) (cs : List Char) :
    Reading Found :=
  let ds := readDigits significand 0 0 cs
  if ds.kept = 0 && ds.dropped = 0 then
    .error (.next (if cs.isEmpty then .endInValue else .invalidNumber) cs)
  else readTail negative ds.significand (scaled - ds.kept) ds.rest

/-- Finish a number after the digits before its point. -/
def finishNumber (negative : Bool) (ds : Digits) : Reading Found :=
  match ds.rest with
  | '.' :: rest => readFraction negative ds.significand ds.dropped rest
  | rest =>
    let exact : Bool :=
      ds.dropped = 0 && !(rest.head?.any fun c => c = 'e' || c = 'E') &&
        (!negative || (0 < ds.significand && ds.significand ≤ Nat.pow 2 63))
    if exact then
      .ok (.integer (if negative then -(ds.significand : Int) else ds.significand), rest)
    else readTail negative ds.significand ds.dropped rest

/-- Read a number after its sign. -/
def readNumber (negative : Bool) (cs : List Char) : Reading Found :=
  match cs with
  | [] => .error (.behind .endInValue [])
  | '0' :: rest =>
    if rest.head?.any Char.isDigit then .error (.next .invalidNumber rest)
    else finishNumber negative ⟨0, 1, 0, rest⟩
  | c :: _ =>
    if c.isDigit then finishNumber negative (readDigits 0 0 0 cs)
    else .error (.next .invalidNumber cs)

end VisitorGen.Json
