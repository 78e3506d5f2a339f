import PageRoutes.Decimal.Binary64
/-!
# Shortest decimals

The decimal with the fewest digits that reads back as a given floating-point number. Around a number
lies the interval of reals that round to it; its ends belong to it when the significand is even. For
one, two, ... seventeen digits the two neighbours of the number on the grid of that many digits are
tested, and the first grid with a neighbour in the interval wins. Of two such neighbours the nearer
one is taken, and in a tie the even one.
-/

namespace PageRoutes.Shortest

/-- The number of decimal digits of a positive number. -/
def digitCount (n : Nat) : Nat := (Nat.toDigits 10 n).length

/-- The decimal exponent of the first digit of a positive number. -/
def leadingExponent (x : Binary64) : Int :=
  let guess : Int := Int.ofNat (digitCount x.num) - Int.ofNat (digitCount x.den)
  if x.num * Nat.pow 10 (-guess).toNat < x.den * Nat.pow 10 guess.toNat then guess - 1 else guess

/-- The best decimal `digits * 10 ^ grid` in the interval around a number, if the grid has one. -/
def onGrid? (x : Binary64) (grid : Int) : Option Nat :=
  let quarter := x.exponent - 2
  let scaleGrid := Nat.pow 10 grid.toNat * Nat.pow 2 (-quarter).toNat
  let scaleNumber := Nat.pow 2 quarter.toNat * Nat.pow 10 (-grid).toNat
  let value := 4 * x.significand * scaleNumber
  let narrow := x.significand == Nat.pow 2 52 && x.exponent > Binary64.minExponent
  let low := (4 * x.significand - (if narrow then 1 else 2)) * scaleNumber
  let high := (4 * x.significand + 2) * scaleNumber
  let inside (d : Nat) : Bool :=
    let p := d * scaleGrid
    if x.significand % 2 == 0 then low ≤ p && p ≤ high else low < p && p < high
  let below := value / scaleGrid
  let above := below + 1
  let belowFits := below > 0 && inside below
  let aboveFits := inside above
  if belowFits && aboveFits then
    let down := value - below * scaleGrid
    let up := above * scaleGrid - value
    some (if down < up || (down == up && below % 2 == 0) then below else above)
  else if belowFits then some below
  else if aboveFits then some above
  else none

/-- The first grid of at least `count` digits with a hit, among `tries` grids. -/
def search (x : Binary64) (leading : Int) (count : Nat) : Nat → Nat × Int
  | 0 => (0, 0)
  | tries + 1 =>
    let grid := leading - Int.ofNat count + 1
    match onGrid? x grid with
    | some d => (d, grid)
    | none => search x leading (count + 1) tries

/-- Digits and exponent of the shortest decimal of a positive number: the decimal is
`digits * 10 ^ exponent`. A number just below a power of ten may round up to it on the first grid;
its one trailing zero then goes into the exponent. -/
def decimal (x : Binary64) : Nat × Int :=
  let hit := search x (leadingExponent x) 1 17
  if hit.1 % 10 == 0 then (hit.1 / 10, hit.2 + 1) else hit

end PageRoutes.Shortest
