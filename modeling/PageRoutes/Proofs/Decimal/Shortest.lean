import PageRoutes.Decimal.Shortest
import PageRoutes.Proofs.Decimal.Rounding
/-!
# The shortest decimal rounds to its number

The search for the shortest decimal of a number tests decimals of one digit, of two digits and so on
up to seventeen. What it finds rounds to the number, and seventeen digits are always enough: the
decimals of so many digits lie closer together than the numbers of the format.

## Main definitions

* `Shortest.fits` : the test of a decimal.

## Main results

* `Shortest.fits_iff` : the test of a decimal, by the interval of the number.
* `Shortest.onGrid?_isSome` : a fine grid has a decimal that rounds to the number.
* `Shortest.rounds_decimal` : the shortest decimal of a number rounds to it.
-/

namespace PageRoutes.Shortest

open Binary64

variable {x : Binary64} {grid : Int} {d : Nat}

/-! ### The test of a decimal -/

/-- The factor that makes a decimal a natural number. -/
def gridScale (x : Binary64) (grid : Int) : Nat :=
  Nat.pow 10 grid.toNat * Nat.pow 2 (-(x.exponent - 2)).toNat

/-- The factor that makes quarters of the last bit of a number natural numbers. -/
def numberScale (x : Binary64) (grid : Int) : Nat :=
  Nat.pow 2 (x.exponent - 2).toNat * Nat.pow 10 (-grid).toNat

/-- Whether a decimal lies in the interval of a number. -/
def fits (x : Binary64) (grid : Int) (d : Nat) : Bool :=
  let narrow := x.significand == Nat.pow 2 52 && x.exponent > minExponent
  let low := (4 * x.significand - (if narrow then 1 else 2)) * numberScale x grid
  let high := (4 * x.significand + 2) * numberScale x grid
  let p := d * gridScale x grid
  if x.significand % 2 == 0 then low ≤ p && p ≤ high else low < p && p < high

/-- The greatest decimal of a grid that is not above a number. -/
def below (x : Binary64) (grid : Int) : Nat :=
  4 * x.significand * numberScale x grid / gridScale x grid

/-- What is found on a grid is a positive decimal that has passed the test. -/
theorem fits_of_onGrid? (h : onGrid? x grid = some d) : 0 < d ∧ fits x grid d := by
  unfold onGrid? at h
  extract_lets quarter scaleGrid scaleNumber value narrow low high inside under above belowFits
    aboveFits down up at h
  have hinside : ∀ d, inside d = fits x grid d := fun d ↦ rfl
  have hbelow : belowFits → 0 < under ∧ fits x grid under := by
    intro hfits
    simpa [belowFits, hinside] using hfits
  have habove : aboveFits → 0 < above ∧ fits x grid above := by
    intro hfits
    exact ⟨Nat.succ_pos _, by simpa [aboveFits, hinside] using hfits⟩
  split at h
  · next hboth =>
    rw [Bool.and_eq_true] at hboth
    obtain rfl := Option.some.inj h
    split
    · exact hbelow hboth.1
    · exact habove hboth.2
  · split at h
    · next hfits =>
      obtain rfl := Option.some.inj h
      exact hbelow hfits
    · split at h
      · next hfits =>
        obtain rfl := Option.some.inj h
        exact habove hfits
      · cases h

/-- A grid has a decimal if one of the two neighbours of the number passes the test. -/
theorem isSome_onGrid? (h : 0 < below x grid ∧ fits x grid (below x grid) ∨
    fits x grid (below x grid + 1)) : (onGrid? x grid).isSome := by
  unfold onGrid?
  extract_lets quarter scaleGrid scaleNumber value narrow low high inside under above belowFits
    aboveFits down up
  have hfits : belowFits ∨ aboveFits := by
    rcases h with ⟨hpos, hfits⟩ | hfits
    · exact .inl (Bool.and_eq_true_iff.mpr ⟨decide_eq_true hpos, hfits⟩)
    · exact .inr hfits
  rcases hfits with hfits | hfits
  · cases haboveFits : aboveFits <;> simp [hfits]
  · cases hbelowFits : belowFits <;> simp [hfits]

/-! ### The test by intervals -/

/-- A power with its positive and its negative part. -/
theorem pow_toNat {b : ℚ} (hb : b ≠ 0) (z : Int) :
    b ^ z.toNat = b ^ z * b ^ (-z).toNat := by
  cases z with
  | ofNat n => simp
  | negSucc n =>
    have hneg : (-Int.negSucc n).toNat = n + 1 := rfl
    rw [Int.toNat_negSucc, hneg, zpow_negSucc, pow_zero, inv_mul_cancel₀ (pow_ne_zero _ hb)]

/-- The common denominator of the two scales. -/
def unit (x : Binary64) (grid : Int) : ℚ := 2 ^ (-(x.exponent - 2)).toNat * 10 ^ (-grid).toNat

theorem unit_pos (x : Binary64) (grid : Int) : 0 < unit x grid := by
  rw [unit]
  positivity

theorem gridScale_eq (x : Binary64) (grid : Int) :
    (gridScale x grid : ℚ) = 10 ^ grid * unit x grid := by
  rw [gridScale, unit, Nat.pow_eq, Nat.pow_eq]
  push_cast
  rw [pow_toNat (by norm_num) grid]
  ring

theorem numberScale_eq (x : Binary64) (grid : Int) :
    (numberScale x grid : ℚ) = 2 ^ x.exponent / 4 * unit x grid := by
  have hquarter : (2 : ℚ) ^ (x.exponent - 2) = 2 ^ x.exponent / 4 := by
    rw [zpow_sub₀ (by norm_num)]
    norm_num
  rw [numberScale, unit, Nat.pow_eq, Nat.pow_eq]
  push_cast
  rw [pow_toNat (by norm_num) (x.exponent - 2), hquarter]
  ring

theorem mul_numberScale_le (x : Binary64) (grid : Int) (a d : Nat) :
    a * numberScale x grid ≤ d * gridScale x grid ↔
      (a : ℚ) / 4 * 2 ^ x.exponent ≤ d * 10 ^ grid := by
  rw [← Nat.cast_le (α := ℚ), Nat.cast_mul, Nat.cast_mul, gridScale_eq, numberScale_eq,
    ← mul_assoc, ← mul_assoc, mul_le_mul_iff_left₀ (unit_pos x grid), mul_div_assoc',
    div_mul_eq_mul_div]

theorem le_mul_numberScale (x : Binary64) (grid : Int) (a d : Nat) :
    d * gridScale x grid ≤ a * numberScale x grid ↔
      (d : ℚ) * 10 ^ grid ≤ a / 4 * 2 ^ x.exponent := by
  rw [← Nat.cast_le (α := ℚ), Nat.cast_mul, Nat.cast_mul, gridScale_eq, numberScale_eq,
    ← mul_assoc, ← mul_assoc, mul_le_mul_iff_left₀ (unit_pos x grid), mul_div_assoc',
    div_mul_eq_mul_div]

/-- **The test of a decimal.** A decimal passes the test if and only if it rounds to the number. -/
theorem fits_iff (hpos : 0 < x.significand) : fits x grid d ↔ x.Rounds (d * 10 ^ grid) := by
  have hlow : ((4 * x.significand - (if x.IsNarrow then 1 else 2) : ℕ) : ℚ) / 4 * 2 ^ x.exponent =
      x.lowEnd := by
    rw [lowEnd, reach, Nat.cast_sub (by split <;> omega)]
    split <;> push_cast <;> ring
  have hhigh : ((4 * x.significand + 2 : ℕ) : ℚ) / 4 * 2 ^ x.exponent = x.highEnd := by
    rw [highEnd]
    push_cast
    ring
  have hnarrow : (x.significand == Nat.pow 2 52 && decide (x.exponent > minExponent)) =
      decide x.IsNarrow := by
    rw [Bool.eq_iff_iff, Bool.and_eq_true, beq_iff_eq, decide_eq_true_eq, decide_eq_true_eq]
    rfl
  have hlowLe := mul_numberScale_le x grid
    (4 * x.significand - (if x.IsNarrow then 1 else 2)) d
  have hleLow := le_mul_numberScale x grid
    (4 * x.significand - (if x.IsNarrow then 1 else 2)) d
  have hleHigh := le_mul_numberScale x grid (4 * x.significand + 2) d
  have hhighLe := mul_numberScale_le x grid (4 * x.significand + 2) d
  rw [hlow] at hlowLe hleLow
  rw [hhigh] at hleHigh hhighLe
  rw [fits, Rounds, hnarrow]
  by_cases heven : x.significand % 2 = 0
  · simp only [heven, beq_self_eq_true, if_true, Bool.and_eq_true, decide_eq_true_eq]
    rw [hlowLe, hleHigh]
  · have hodd : (x.significand % 2 == 0) = false := by simpa using heven
    simp only [hodd, heven, if_false, Bool.false_eq_true, Bool.and_eq_true, decide_eq_true_eq]
    rw [← not_le, ← not_le, hleLow, hhighLe, not_le, not_le]

/-! ### Grids that are fine enough -/

/-- The neighbours of a number on a grid. -/
theorem below_le_value (x : Binary64) (grid : Int) :
    below x grid * (10 : ℚ) ^ grid ≤ x.value ∧ x.value < (below x grid + 1) * 10 ^ grid := by
  have hscale : 0 < gridScale x grid := by
    rw [gridScale, Nat.pow_eq, Nat.pow_eq]
    positivity
  have hvalue : ((4 * x.significand : ℕ) : ℚ) / 4 * 2 ^ x.exponent = x.value := by
    rw [value]
    push_cast
    ring
  constructor
  · have hle := (le_mul_numberScale x grid (4 * x.significand)
      (below x grid)).mp (Nat.div_mul_le_self _ _)
    rwa [hvalue] at hle
  · have hlt : 4 * x.significand * numberScale x grid < (below x grid + 1) * gridScale x grid :=
      Nat.lt_mul_of_div_lt (Nat.lt_succ_self _) hscale
    rw [← not_le, le_mul_numberScale, hvalue, not_le] at hlt
    exact_mod_cast hlt

/-- **Fine grids.** A grid that is finer than twice the reach of the interval on both sides, and not
coarser than the number, has a decimal that rounds to the number. -/
theorem onGrid?_isSome (hpos : 0 < x.significand) (hvalue : (10 : ℚ) ^ grid ≤ x.value)
    (hfine : (10 : ℚ) ^ grid < 2 * x.reach * 2 ^ x.exponent) : (onGrid? x grid).isSome := by
  obtain ⟨hle, hlt⟩ := below_le_value x grid
  have hgrid : (0 : ℚ) < 10 ^ grid := by positivity
  have hunit : (0 : ℚ) < 2 ^ x.exponent := by positivity
  have hhalf : 2 * x.reach * 2 ^ x.exponent ≤ 2 ^ x.exponent := by
    have := reach_le x
    nlinarith
  have hlow : x.lowEnd = x.value - x.reach * 2 ^ x.exponent := by
    rw [lowEnd, value]
    ring
  have hhigh : x.highEnd = x.value + 2 ^ x.exponent / 2 := by
    rw [highEnd, value]
    ring
  apply isSome_onGrid?
  rw [fits_iff hpos, fits_iff hpos]
  -- The nearer one of the two neighbours is at most half a step away.
  rcases le_total (x.value - below x grid * 10 ^ grid) ((10 : ℚ) ^ grid / 2) with hnear | hnear
  · left
    constructor
    · by_contra hzero
      obtain hzero : below x grid = 0 := by omega
      rw [hzero] at hlt
      push_cast at hlt
      linarith
    · exact rounds_of_lt (by linarith) (by linarith)
  · right
    push_cast
    exact rounds_of_lt (by linarith) (by linarith)

/-! ### Seventeen digits -/

/-- The number of digits of a positive number, by powers of ten. -/
theorem pow_digitCount (n : Nat) (h : 0 < n) :
    10 ^ (digitCount n - 1) ≤ n ∧ n < 10 ^ digitCount n := by
  have hpos : 0 < digitCount n := Nat.length_toDigits_pos
  constructor
  · by_contra hlt
    by_cases hone : digitCount n - 1 = 0
    · rw [hone] at hlt
      omega
    · have := (Nat.length_toDigits_le_iff (b := 10) (n := n) (by omega) (by omega)).mpr
        (not_le.mp hlt)
      rw [digitCount] at *
      omega
  · exact (Nat.length_toDigits_le_iff (by omega) hpos).mp le_rfl

theorem num_eq_value_mul_den (x : Binary64) : (x.num : ℚ) = x.value * x.den := by
  rw [value, num, den, Nat.pow_eq, Nat.pow_eq]
  push_cast
  rw [pow_toNat (by norm_num) x.exponent, mul_assoc]

/-- The power of ten of the first digit is not above the number. -/
theorem pow_leadingExponent_le (hpos : 0 < x.significand) :
    (10 : ℚ) ^ leadingExponent x ≤ x.value := by
  have hnum : 0 < x.num := by
    rw [num, Nat.pow_eq]
    positivity
  have hden : 0 < x.den := by
    rw [den, Nat.pow_eq]
    positivity
  have hdenCast : (0 : ℚ) < x.den := by exact_mod_cast hden
  obtain ⟨hnumLow, -⟩ := pow_digitCount x.num hnum
  obtain ⟨-, hdenHigh⟩ := pow_digitCount x.den hden
  have hcount : 0 < digitCount x.num := Nat.length_toDigits_pos
  unfold leadingExponent
  extract_lets guess
  rw [← mul_le_mul_iff_left₀ hdenCast, ← num_eq_value_mul_den]
  split
  · have hexponent : guess - 1 + digitCount x.den = (digitCount x.num - 1 : ℕ) := by
      simp only [guess, Int.ofNat_eq_natCast]
      omega
    calc (10 : ℚ) ^ (guess - 1) * x.den
        ≤ 10 ^ (guess - 1) * 10 ^ digitCount x.den := by
          have hle : (x.den : ℚ) ≤ 10 ^ digitCount x.den := by exact_mod_cast hdenHigh.le
          exact mul_le_mul_of_nonneg_left hle (by positivity)
      _ = 10 ^ (digitCount x.num - 1) := by
          rw [← zpow_natCast, ← zpow_add₀ (by norm_num), hexponent, zpow_natCast]
      _ ≤ x.num := by exact_mod_cast hnumLow
  · next hguess =>
    have hscale : (0 : ℚ) < 10 ^ (-guess).toNat := by positivity
    rw [← mul_le_mul_iff_left₀ hscale, mul_right_comm, ← pow_toNat (by norm_num), mul_comm]
    rw [not_lt, Nat.pow_eq, Nat.pow_eq] at hguess
    exact_mod_cast hguess

/-- The decimals of seventeen digits are a fine grid. -/
theorem isSome_onGrid?_seventeen (hx : x.IsCanonical) (hpos : 0 < x.significand) :
    (onGrid? x (leadingExponent x - 16)).isSome := by
  have hleading := pow_leadingExponent_le hpos
  have hunit : (0 : ℚ) < 2 ^ x.exponent := by positivity
  have hvalue : 0 < x.value := lt_of_lt_of_le (by positivity) hleading
  have hgrid : (10 : ℚ) ^ (leadingExponent x - 16) ≤ x.value / 10 ^ 16 := by
    rw [zpow_sub₀ (by norm_num)]
    exact div_le_div_of_nonneg_right hleading (by positivity)
  refine onGrid?_isSome hpos (hgrid.trans ?_) (lt_of_le_of_lt hgrid ?_)
  · exact div_le_self hvalue.le (by norm_num)
  · rw [value, reach]
    split
    · next hnarrow =>
      rw [hnarrow.1]
      push_cast
      linarith
    · have hlt : (x.significand : ℚ) < 2 ^ 53 := by exact_mod_cast hx.significand_lt
      have := mul_lt_mul_of_pos_right hlt hunit
      linarith

/-- The search finds something if there is something to find on one of its grids. -/
theorem exists_search (x : Binary64) (leading : Int) {count tries i : Nat} (hi : i < tries)
    (h : (onGrid? x (leading - Int.ofNat (count + i) + 1)).isSome) :
    onGrid? x (search x leading count tries).2 = some (search x leading count tries).1 := by
  induction tries generalizing count i with
  | zero => omega
  | succ tries ih =>
    rw [search]
    split
    · next d hfound => exact hfound
    · next hnone =>
      cases i with
      | zero =>
        rw [Nat.add_zero, hnone] at h
        cases h
      | succ i =>
        have hplace : count + (i + 1) = count + 1 + i := by omega
        rw [hplace] at h
        exact ih (Nat.lt_of_succ_lt_succ hi) h

/-- **The shortest decimal.** The shortest decimal of a number is positive and rounds to it. -/
theorem rounds_decimal (hx : x.IsCanonical) (hpos : 0 < x.significand) :
    0 < (decimal x).1 ∧ x.Rounds ((decimal x).1 * 10 ^ (decimal x).2) := by
  have hgrid : leadingExponent x - Int.ofNat (1 + 16) + 1 = leadingExponent x - 16 := by
    simp
    omega
  have hfine : (onGrid? x (leadingExponent x - Int.ofNat (1 + 16) + 1)).isSome := by
    rw [hgrid]
    exact isSome_onGrid?_seventeen hx hpos
  have hfound : onGrid? x (search x (leadingExponent x) 1 17).2 =
      some (search x (leadingExponent x) 1 17).1 :=
    exists_search x _ (by omega : 16 < 17) hfine
  obtain ⟨hdigits, hfits⟩ := fits_of_onGrid? hfound
  have hrounds := (fits_iff hpos).mp hfits
  unfold decimal
  extract_lets hit
  split
  · next hzero =>
    have htenth : hit.1 = 10 * (hit.1 / 10) := by
      have hmod : hit.1 % 10 = 0 := by simpa using hzero
      omega
    have hmove : ((hit.1 / 10 : ℕ) : ℚ) * 10 ^ (hit.2 + 1) = hit.1 * 10 ^ hit.2 := by
      have hcast : (hit.1 : ℚ) = 10 * (hit.1 / 10 : ℕ) := by exact_mod_cast htenth
      rw [zpow_add_one₀ (by norm_num), hcast]
      ring
    refine ⟨?_, ?_⟩
    · have : 0 < hit.1 := hdigits
      omega
    · rw [hmove]
      exact hrounds
  · exact ⟨hdigits, hrounds⟩

end PageRoutes.Shortest
