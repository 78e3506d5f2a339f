/-!
# Finite binary floating-point numbers

The non-negative finite numbers of the 64-bit binary format, as a significand of at most 53 bits
times a power of two, with the two operations that reading a decimal needs. All arithmetic is exact
on natural numbers up to one final rounding: a quotient is rounded to the nearest number of the
format, and a tie goes to the even significand.
-/

namespace PageRoutes

/-- The number `significand * 2 ^ exponent`. A positive one has a significand of 53 bits unless its
exponent is the least one, `-1074`. -/
structure Binary64 where
  significand : Nat
  exponent : Int
  deriving DecidableEq, Repr

namespace Binary64

/-- The least exponent of the format. -/
def minExponent : Int := -1074

/-- Zero. -/
def zero : Binary64 := ⟨0, minExponent⟩

/-- The quotient of two natural numbers, rounded to the nearest integer and to the even one in a
tie. -/
def roundDiv (num den : Nat) : Nat :=
  let q := num / den
  let twice := 2 * (num % den)
  if den < twice || (twice == den && q % 2 == 1) then q + 1 else q

/-- The ratio `num / den * 2 ^ (-shift)`, rounded to an integer. -/
def roundShifted (num den : Nat) (shift : Int) : Nat :=
  roundDiv (num * Nat.pow 2 (-shift).toNat) (den * Nat.pow 2 shift.toNat)

/-- The number nearest to `num / den`, or nothing where that is beyond the largest number. -/
def ofRatio (num den : Nat) : Option Binary64 :=
  if num == 0 then some zero
  else
    let guess : Int := Int.ofNat num.log2 - Int.ofNat den.log2 - 52
    let fits (e : Int) : Bool := num * Nat.pow 2 (-e).toNat < den * Nat.pow 2 e.toNat * Nat.pow 2 53
    let tight := if fits (guess - 1) then guess - 1 else guess
    let e := max minExponent tight
    let q := roundShifted num den e
    let r : Binary64 := if q == Nat.pow 2 53 then ⟨Nat.pow 2 52, e + 1⟩ else ⟨q, e⟩
    if r.exponent > 971 then none else some r

/-- The number nearest to a natural number. -/
def ofNat (n : Nat) : Option Binary64 := ofRatio n 1

/-- The numerator of a number as a ratio of natural numbers. -/
def num (x : Binary64) : Nat := x.significand * Nat.pow 2 x.exponent.toNat

/-- The denominator of a number as a ratio of natural numbers. -/
def den (x : Binary64) : Nat := Nat.pow 2 (-x.exponent).toNat

/-- The product, rounded; nothing where it is too large. -/
def mul (x y : Binary64) : Option Binary64 := ofRatio (x.num * y.num) (x.den * y.den)

/-- The quotient by a positive number, rounded; nothing where it is too large. -/
def div (x y : Binary64) : Option Binary64 := ofRatio (x.num * y.den) (x.den * y.num)

end Binary64

end PageRoutes
