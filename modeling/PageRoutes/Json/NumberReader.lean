import PageRoutes.Json.Cursor
/-!
# Reading JSON numbers

An integer that fits into 64 bits is kept exactly. Any other number becomes a floating-point number:
its digits are collected into an unsigned 64-bit significand, further digits only move the decimal
point, and the significand is then multiplied or divided once by the power of ten. That is the
number nearest to the text only as long as both factors are exact. Powers beyond `10 ^ 308` are
taken in steps.
-/

namespace PageRoutes.Json

/-- The largest significand. -/
def maxSignificand : Nat := Nat.pow 2 64 - 1

/-- Whether a significand has room for one more digit. -/
def hasRoom (significand digit : Nat) : Bool := significand * 10 + digit ≤ maxSignificand

/-- The decimal digit at a cursor. -/
def digit? (c : Cursor) : Option Nat :=
  match c.peek? with
  | some x => if x.isDigit then some (x.toNat - 48) else none
  | none => none

/-- Whether an exponent follows. -/
def atExponent (c : Cursor) : Bool := c.peek? == some 'e' || c.peek? == some 'E'

/-- A power of ten, rounded. Powers up to `10 ^ 308` are in the format. -/
def powerOfTen (n : Nat) : Binary64 := (Binary64.ofNat (Nat.pow 10 n)).getD .zero

/-- Scales a number by a power of ten, in steps of `10 ^ 308`; `fuel` bounds the steps. -/
def scale (x : Binary64) (exponent : Int) : (fuel : Nat) → Option Binary64
  | 0 => some x
  | fuel + 1 =>
    if exponent.natAbs ≤ 308 then
      if 0 ≤ exponent then x.mul (powerOfTen exponent.natAbs)
      else x.div (powerOfTen exponent.natAbs)
    else if x.significand == 0 then some x
    else if 0 ≤ exponent then none
    else (x.div (powerOfTen 308)).bind fun y => scale y (exponent + 308) fuel

/-- The number with the given significand and power of ten. -/
def readFloat (isNegative : Bool) (significand : Nat) (exponent : Int) (c : Cursor) :
    Read JsonNumber :=
  match (Binary64.ofNat significand).bind fun x => scale x exponent 1000 with
  | some x => .ok (.float isNegative x, c)
  | none => c.fail .numberOutOfRange

/-- Passes over digits, counting them. -/
def skipDigits (c : Cursor) : Nat × Cursor :=
  ((c.rest.takeWhile Char.isDigit).length, c.skipWhile Char.isDigit)

/-- The largest decimal exponent that is kept. -/
def maxExponent : Nat := Nat.pow 2 31 - 1

/-- Brings an exponent back into 32 bits. -/
def clampExponent (e : Int) : Int := max (-(maxExponent + 1)) (min e maxExponent)

/-- Reads the remaining digits of an exponent; `fuel` bounds their number. The result is nothing
where the exponent is too large to be kept. -/
def readExponentDigits (value : Nat) (c : Cursor) : (fuel : Nat) → Option Nat × Cursor
  | 0 => (some value, c)
  | fuel + 1 =>
    match digit? c with
    | some d =>
      if value * 10 + d ≤ maxExponent then readExponentDigits (value * 10 + d) c.skip fuel
      else (none, c.skip)
    | none => (some value, c)

/-- Reads an exponent, from its letter. -/
def readExponent (isNegative : Bool) (significand : Nat) (exponent : Int) (c : Cursor) :
    Read JsonNumber :=
  let c := c.skip
  let down := c.peek? == some '-'
  let c := if down || c.peek? == some '+' then c.skip else c
  match c.peek? with
  | none => c.fail .endInValue
  | some _ =>
    match digit? c with
    | none => c.failNext .invalidNumber
    | some d =>
      match readExponentDigits d c.skip (c.rest.length + 1) with
      | (some e, c) =>
        let total := clampExponent (if down then exponent - Int.ofNat e else exponent + Int.ofNat e)
        readFloat isNegative significand total c
      | (none, c) =>
        if significand != 0 && !down then c.fail .numberOutOfRange
        else .ok (.float isNegative .zero, (skipDigits c).2)

/-- Reads the digits after the point as long as the significand has room; `fuel` bounds their
number. The result is the significand and the number of digits. -/
def readFraction (significand count : Nat) (c : Cursor) : (fuel : Nat) → Nat × Nat × Cursor
  | 0 => (significand, count, c)
  | fuel + 1 =>
    match digit? c with
    | some d =>
      if hasRoom significand d then readFraction (significand * 10 + d) (count + 1) c.skip fuel
      else (significand, count, c)
    | none => (significand, count, c)

/-- Reads a number from its decimal point. -/
def readDecimal (isNegative : Bool) (significand : Nat) (exponent : Int) (c : Cursor) :
    Read JsonNumber :=
  let (significand, count, c) := readFraction significand 0 c.skip (c.rest.length + 1)
  let exponent := exponent - Int.ofNat count
  if (digit? c).isNone && count == 0 then
    match c.peek? with
    | some _ => c.failNext .invalidNumber
    | none => c.fail .endInValue
  else
    let c := (skipDigits c).2
    if atExponent c then readExponent isNegative significand exponent c
    else readFloat isNegative significand exponent c

/-- Reads the rest of a number after its integer digits. -/
def readAfterInteger (isNegative : Bool) (significand : Nat) (c : Cursor) : Read JsonNumber :=
  if c.peek? == some '.' then readDecimal isNegative significand 0 c
  else if atExponent c then readExponent isNegative significand 0 c
  else if !isNegative then .ok (.natural significand, c)
  else if significand == 0 || significand > Nat.pow 2 63 then readFloat true significand 0 c
  else .ok (.negative significand, c)

/-- Reads an integer part that no longer fits: its further digits only move the point. -/
def readLongInteger (isNegative : Bool) (significand : Nat) (c : Cursor) : Read JsonNumber :=
  let (count, c) := skipDigits c
  let exponent := Int.ofNat count
  if c.peek? == some '.' then readDecimal isNegative significand exponent c
  else if atExponent c then readExponent isNegative significand exponent c
  else readFloat isNegative significand exponent c

/-- Reads the digits of an integer part; `fuel` bounds their number. -/
def readInteger (isNegative : Bool) (significand : Nat) (c : Cursor) :
    (fuel : Nat) → Read JsonNumber
  | 0 => readAfterInteger isNegative significand c
  | fuel + 1 =>
    match digit? c with
    | some d =>
      if hasRoom significand d then readInteger isNegative (significand * 10 + d) c.skip fuel
      else readLongInteger isNegative significand c
    | none => readAfterInteger isNegative significand c

/-- Reads a number, from after its sign. -/
def readNumber (isNegative : Bool) (c : Cursor) : Read JsonNumber :=
  match c.peek? with
  | none => c.fail .endInValue
  | some '0' =>
    let c := c.skip
    if (digit? c).isSome then c.failNext .invalidNumber else readAfterInteger isNegative 0 c
  | some _ =>
    match digit? c with
    | some d => readInteger isNegative d c.skip (c.rest.length + 1)
    | none => c.skip.fail .invalidNumber

end PageRoutes.Json
