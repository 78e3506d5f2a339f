import PageRoutes.Proofs.Decimal.Shortest
/-!
# Quotients are rounded to the nearest number

A quotient of natural numbers is divided by a power of two, which brings it between `2 ^ 52` and
`2 ^ 53` unless the exponent is the least one, and the result is rounded to a natural number. This
gives a number of the format with all bits of its significand, and the quotient lies in the rounding
interval of this number.

## Main definitions

* `Binary64.IsNearest` : the natural number to which a rational number is rounded.
* `Binary64.tightExponent` : the power of two that brings a quotient between `2 ^ 52` and `2 ^ 53`.

## Main results

* `Binary64.rounds_ofRatio` : a quotient rounds to the number that it gives.
-/

namespace PageRoutes.Binary64

variable {num den : Nat} {m k : Nat} {v : ℚ} {e : Int} {x : Binary64}

/-! ### Rounding to natural numbers -/

/-- Whether a rational number is rounded to a natural number: to the nearest one, and to the even
one in a tie. -/
def IsNearest (m : Nat) (v : ℚ) : Prop :=
  if m % 2 = 0 then m - 1 / 2 ≤ v ∧ v ≤ m + 1 / 2 else m - 1 / 2 < v ∧ v < m + 1 / 2

theorem IsNearest.sub_le (h : IsNearest m v) : m - 1 / 2 ≤ v := by
  rw [IsNearest] at h
  split at h
  · exact h.1
  · exact h.1.le

theorem IsNearest.le_add (h : IsNearest m v) : v ≤ m + 1 / 2 := by
  rw [IsNearest] at h
  split at h
  · exact h.2
  · exact h.2.le

theorem isNearest_of_lt (hlow : m - 1 / 2 < v) (hhigh : v < m + 1 / 2) : IsNearest m v := by
  rw [IsNearest]
  split
  · exact ⟨hlow.le, hhigh.le⟩
  · exact ⟨hlow, hhigh⟩

theorem isNearest_of_even (h : m % 2 = 0) (hlow : m - 1 / 2 ≤ v) (hhigh : v ≤ m + 1 / 2) :
    IsNearest m v := by
  rw [IsNearest, if_pos h]
  exact ⟨hlow, hhigh⟩

/-- Rounding does not lead beyond a natural number from below. -/
theorem IsNearest.le_of_lt (h : IsNearest m v) (hlt : v < k) : m ≤ k := by
  by_contra hgt
  have hnext : (k : ℚ) + 1 ≤ m := by exact_mod_cast not_le.mp hgt
  linarith [h.sub_le]

/-- Rounding does not lead beyond a natural number from above. -/
theorem IsNearest.ge_of_le (h : IsNearest m v) (hle : k ≤ v) : k ≤ m := by
  by_contra hlt
  have hnext : (m : ℚ) + 1 ≤ k := by exact_mod_cast not_le.mp hlt
  linarith [h.le_add]

/-- The quotient of natural numbers is rounded to the nearest one. -/
theorem isNearest_roundDiv (hden : 0 < den) : IsNearest (roundDiv num den) (num / den) := by
  have hcast : (0 : ℚ) < den := by exact_mod_cast hden
  -- The quotient is the whole quotient `q` and a fraction `r / den` below one.
  obtain ⟨q, hq⟩ : ∃ q, num / den = q := ⟨_, rfl⟩
  obtain ⟨r, hr⟩ : ∃ r, num % den = r := ⟨_, rfl⟩
  have hbelow : (r : ℚ) / den < 1 := by
    rw [div_lt_one hcast, ← hr]
    exact_mod_cast Nat.mod_lt _ hden
  have habove : (0 : ℚ) ≤ r / den := by positivity
  have hvalue : (num : ℚ) / den = q + r / den := by
    have hsplit : (num : ℚ) = den * q + r := by
      rw [← hq, ← hr]
      exact_mod_cast (Nat.div_add_mod num den).symm
    rw [hsplit, add_div, mul_div_cancel_left₀ _ hcast.ne']
  rw [roundDiv, hq, hr, hvalue]
  rcases lt_trichotomy den (2 * r) with hup | htie | hdown
  · have hhalf : 1 / 2 < (r : ℚ) / den := by
      rw [lt_div_iff₀ hcast]
      have : (den : ℚ) < 2 * r := by exact_mod_cast hup
      linarith
    rw [if_pos (by simp [hup])]
    exact isNearest_of_lt (by push_cast; linarith) (by push_cast; linarith)
  · have hhalf : (r : ℚ) / den = 1 / 2 := by
      rw [div_eq_iff hcast.ne']
      have : (den : ℚ) = 2 * r := by exact_mod_cast htie
      linarith
    rw [hhalf]
    rcases Nat.mod_two_eq_zero_or_one q with heven | hodd
    · rw [if_neg (by simp [htie, heven])]
      exact isNearest_of_even heven (by linarith) (by linarith)
    · rw [if_pos (by simp [htie, hodd])]
      exact isNearest_of_even (by omega) (by push_cast; linarith) (by push_cast; linarith)
  · have hhalf : (r : ℚ) / den < 1 / 2 := by
      rw [div_lt_iff₀ hcast]
      have : 2 * (r : ℚ) < den := by exact_mod_cast hdown
      linarith
    rw [if_neg (by simp; omega)]
    exact isNearest_of_lt (by linarith) (by linarith)

/-- A quotient that is divided by a power of two. -/
theorem shifted_eq (num den : Nat) (e : Int) :
    ((num * Nat.pow 2 (-e).toNat : Nat) : ℚ) / (den * Nat.pow 2 e.toNat : Nat) =
      num / den / 2 ^ e := by
  rw [Nat.pow_eq, Nat.pow_eq]
  push_cast
  rw [Shortest.pow_toNat (by norm_num) e]
  have hunit : (2 : ℚ) ^ (-e).toNat ≠ 0 := by positivity
  rw [div_div, ← mul_assoc, mul_div_mul_right _ _ hunit]

theorem isNearest_roundShifted (hden : 0 < den) (e : Int) :
    IsNearest (roundShifted num den e) (num / den / 2 ^ e) := by
  rw [← shifted_eq]
  exact isNearest_roundDiv (by rw [Nat.pow_eq]; positivity)

/-! ### The exponent -/

/-- Whether a quotient that is divided by a power of two is less than `2 ^ 53`. -/
def fits (num den : Nat) (e : Int) : Bool :=
  num * Nat.pow 2 (-e).toNat < den * Nat.pow 2 e.toNat * Nat.pow 2 53

theorem fits_iff (hden : 0 < den) : fits num den e ↔ (num : ℚ) / den / 2 ^ e < 2 ^ 53 := by
  have hpos : (0 : ℚ) < (den * Nat.pow 2 e.toNat : Nat) := by
    rw [Nat.pow_eq]
    positivity
  rw [← shifted_eq, div_lt_iff₀ hpos, fits, decide_eq_true_eq, mul_comm (2 ^ 53)]
  norm_cast

/-- An exponent that brings the quotient of positive numbers near to `2 ^ 53`. -/
def guessExponent (num den : Nat) : Int := Int.ofNat num.log2 - Int.ofNat den.log2 - 52

/-- The exponent that brings the quotient of positive numbers between `2 ^ 52` and `2 ^ 53`. -/
def tightExponent (num den : Nat) : Int :=
  if fits num den (guessExponent num den - 1) then guessExponent num den - 1
  else guessExponent num den

/-- The binary logarithm bounds a positive number on both sides. -/
theorem zpow_log2_le (h : num ≠ 0) :
    (2 : ℚ) ^ (num.log2 : Int) ≤ num ∧ (num : ℚ) < 2 ^ (num.log2 + 1 : Int) := by
  constructor
  · exact_mod_cast Nat.log2_self_le h
  · exact_mod_cast Nat.lt_log2_self

/-- With the guess the quotient is between `2 ^ 51` and `2 ^ 53`. -/
theorem guessExponent_bounds (hnum : num ≠ 0) (hden : 0 < den) :
    (2 : ℚ) ^ 51 < num / den / 2 ^ guessExponent num den ∧
      (num : ℚ) / den / 2 ^ guessExponent num den < 2 ^ 53 := by
  have hcast : (0 : ℚ) < den := by exact_mod_cast hden
  have hunit : (0 : ℚ) < 2 ^ guessExponent num den := by positivity
  obtain ⟨hnumLow, hnumHigh⟩ := zpow_log2_le hnum
  obtain ⟨hdenLow, hdenHigh⟩ := zpow_log2_le hden.ne'
  have hguess (i : Int) : (2 : ℚ) ^ i * 2 ^ guessExponent num den * 2 ^ (den.log2 : Int) =
      2 ^ (i - 52 + num.log2) := by
    rw [← zpow_add₀ (by norm_num), ← zpow_add₀ (by norm_num), guessExponent, Int.ofNat_eq_natCast,
      Int.ofNat_eq_natCast]
    congr 1
    omega
  rw [lt_div_iff₀ hunit, lt_div_iff₀ hcast, div_lt_iff₀ hunit, div_lt_iff₀ hcast]
  constructor
  · calc (2 : ℚ) ^ 51 * 2 ^ guessExponent num den * den
        < 2 ^ 51 * 2 ^ guessExponent num den * 2 ^ (den.log2 + 1 : Int) := by gcongr
      _ = 2 ^ (52 : Int) * 2 ^ guessExponent num den * 2 ^ (den.log2 : Int) := by
        rw [zpow_add_one₀ (by norm_num)]
        ring
      _ = 2 ^ (num.log2 : Int) := by rw [hguess, sub_self, zero_add]
      _ ≤ num := hnumLow
  · calc (num : ℚ) < 2 ^ (num.log2 + 1 : Int) := hnumHigh
      _ = 2 ^ (53 : Int) * 2 ^ guessExponent num den * 2 ^ (den.log2 : Int) := by
        rw [hguess, add_comm]
        norm_num
      _ ≤ 2 ^ 53 * 2 ^ guessExponent num den * den := by
        norm_cast
        gcongr
        exact_mod_cast hdenLow

/-- The tight exponent brings the quotient between `2 ^ 52` and `2 ^ 53`. -/
theorem tightExponent_bounds (hnum : num ≠ 0) (hden : 0 < den) :
    (2 : ℚ) ^ 52 ≤ num / den / 2 ^ tightExponent num den ∧
      (num : ℚ) / den / 2 ^ tightExponent num den < 2 ^ 53 := by
  obtain ⟨hlow, hhigh⟩ := guessExponent_bounds hnum hden
  have hdouble : (num : ℚ) / den / 2 ^ (guessExponent num den - 1) =
      2 * (num / den / 2 ^ guessExponent num den) := by
    rw [zpow_sub_one₀ (by norm_num), div_mul_eq_div_div, div_inv_eq_mul, mul_comm]
  rw [tightExponent]
  split
  · next hfits =>
    rw [fits_iff hden] at hfits
    exact ⟨by linarith, hfits⟩
  · next hfits =>
    rw [fits_iff hden, hdouble] at hfits
    exact ⟨by linarith, hhigh⟩

/-! ### The number -/

/-- A rational number rounds to the significand to which it is rounded under its exponent. At a
power of two it must not be below. -/
theorem rounds_of_isNearest (h : IsNearest m (v / 2 ^ e))
    (hnarrow : IsNarrow ⟨m, e⟩ → m ≤ v / 2 ^ e) : Rounds ⟨m, e⟩ v := by
  have hunit : (0 : ℚ) < 2 ^ e := by positivity
  by_cases hwide : IsNarrow ⟨m, e⟩
  · have hm : m = 2 ^ 52 := hwide.1
    have hle := (le_div_iff₀ hunit).mp (hnarrow hwide)
    have hhigh := (div_le_iff₀ hunit).mp h.le_add
    rw [Rounds, if_pos (by simp [hm]), lowEnd, reach, if_pos hwide, highEnd]
    exact ⟨by linarith, hhigh⟩
  · rw [IsNearest, le_div_iff₀ hunit, div_le_iff₀ hunit, lt_div_iff₀ hunit, div_lt_iff₀ hunit] at h
    rwa [Rounds, lowEnd, reach, if_neg hwide, highEnd]

theorem rounds_of_even (h : x.significand % 2 = 0) (hlow : x.lowEnd ≤ v) (hhigh : v ≤ x.highEnd) :
    x.Rounds v := by
  rw [Rounds, if_pos h]
  exact ⟨hlow, hhigh⟩

/-- A rational number that is rounded up to `2 ^ 53` rounds to the power of two above. -/
theorem rounds_of_carry (he : minExponent ≤ e) (h : IsNearest (2 ^ 53) (v / 2 ^ e))
    (hlt : v / 2 ^ e < 2 ^ 53) : Rounds ⟨2 ^ 52, e + 1⟩ v := by
  have hunit : (0 : ℚ) < 2 ^ e := by positivity
  have hnarrow : IsNarrow ⟨2 ^ 52, e + 1⟩ := ⟨rfl, Int.lt_add_one_of_le he⟩
  have hsub : (2 : ℚ) ^ 53 - 1 / 2 ≤ v / 2 ^ e := by exact_mod_cast h.sub_le
  have hlow := (le_div_iff₀ hunit).mp hsub
  have hhigh := (div_lt_iff₀ hunit).mp hlt
  have heven : 2 ^ 52 % 2 = 0 := by norm_num
  refine rounds_of_even heven ?_ ?_
  · rw [lowEnd, reach, if_pos hnarrow, zpow_add_one₀ (by norm_num)]
    push_cast
    linarith
  · rw [highEnd, zpow_add_one₀ (by norm_num)]
    push_cast
    linarith

theorem isCanonical_zero : zero.IsCanonical := ⟨by decide, le_rfl, .inl rfl⟩

theorem rounds_zero : zero.Rounds 0 := by
  have hunit : (0 : ℚ) < 2 ^ minExponent := by positivity
  refine rounds_of_lt ?_ ?_
  · rw [lowEnd, reach, if_neg fun h ↦ absurd h.1 (by decide), zero]
    push_cast
    linarith
  · rw [highEnd, zero]
    push_cast
    linarith

/-- What a quotient gives: the rounded significand, or the next power of two after a carry. -/
theorem eq_of_ofRatio (hnum : num ≠ 0) (h : ofRatio num den = some x)
    (he : e = max minExponent (tightExponent num den)) :
    roundShifted num den e = 2 ^ 53 ∧ x = ⟨2 ^ 52, e + 1⟩ ∨
      roundShifted num den e ≠ 2 ^ 53 ∧ x = ⟨roundShifted num den e, e⟩ := by
  rw [ofRatio, if_neg (by simpa using hnum)] at h
  extract_lets guess tests tight e' q r at h
  obtain rfl : e = e' := he
  obtain rfl : r = x := by
    split at h
    · cases h
    · exact Option.some.inj h
  by_cases hcarry : q = 2 ^ 53
  · exact .inl ⟨hcarry, if_pos (beq_iff_eq.mpr hcarry)⟩
  · exact .inr ⟨hcarry, if_neg fun h ↦ hcarry (beq_iff_eq.mp h)⟩

/-- **Quotients.** The number that a quotient gives has all bits of its significand, and it is the
number to which the quotient rounds. -/
theorem rounds_ofRatio (hden : 0 < den) (h : ofRatio num den = some x) :
    x.IsCanonical ∧ x.Rounds (num / den) := by
  by_cases hnum : num = 0
  · rw [ofRatio, if_pos (by simpa using hnum)] at h
    obtain rfl := Option.some.inj h
    rw [hnum, Nat.cast_zero, zero_div]
    exact ⟨isCanonical_zero, rounds_zero⟩
  obtain ⟨htightLow, htightHigh⟩ := tightExponent_bounds hnum hden
  obtain ⟨e, he⟩ : ∃ e, e = max minExponent (tightExponent num den) := ⟨_, rfl⟩
  have hmin : minExponent ≤ e := he ▸ le_max_left _ _
  have hnearest : IsNearest (roundShifted num den e) (num / den / 2 ^ e) :=
    isNearest_roundShifted hden e
  have hhigh : (num : ℚ) / den / 2 ^ e < 2 ^ 53 := by
    refine lt_of_le_of_lt ?_ htightHigh
    gcongr
    · norm_num
    · exact he ▸ le_max_right _ _
  have hlow : e = minExponent ∨ (2 : ℚ) ^ 52 ≤ num / den / 2 ^ e := by
    rcases max_choice minExponent (tightExponent num den) with hmin | htight
    · exact .inl (he.trans hmin)
    · exact .inr (by rwa [he.trans htight])
  rcases eq_of_ofRatio hnum h he with ⟨hcarry, rfl⟩ | ⟨hcarry, rfl⟩
  · rw [hcarry] at hnearest
    exact ⟨⟨by norm_num, hmin.trans (by simp), .inr le_rfl⟩, rounds_of_carry hmin hnearest hhigh⟩
  · have hle : roundShifted num den e ≤ 2 ^ 53 := hnearest.le_of_lt (by exact_mod_cast hhigh)
    refine ⟨⟨lt_of_le_of_ne hle hcarry, hmin, ?_⟩, rounds_of_isNearest hnearest fun hnarrow ↦ ?_⟩
    · exact hlow.imp_right fun hle ↦ hnearest.ge_of_le (by exact_mod_cast hle)
    · have hpower : roundShifted num den e = 2 ^ 52 := hnarrow.1
      have hle := hlow.resolve_left hnarrow.2.ne'
      rw [hpower]
      exact_mod_cast hle

end PageRoutes.Binary64
