import Mathlib.Algebra.Order.Field.Power
import Mathlib.Data.Rat.Defs
import Mathlib.Tactic.Linarith
import Mathlib.Tactic.NormNum
import Mathlib.Tactic.Positivity
import Mathlib.Tactic.Ring
import PageRoutes.Decimal.Binary64
/-!
# Rounding intervals

Around every positive number of the 64-bit format lies the interval of the rational numbers that
round to it. It reaches half way to the next numbers of the format, and its ends belong to it if the
significand is even. Above a power of two the numbers below lie closer together, so that the
interval is narrower on this side.

The intervals of different numbers have nothing in common. A decimal from the interval of a number
therefore determines the number.

## Main definitions

* `Binary64.IsCanonical` : the spelling of a number with all bits of its significand.
* `Binary64.Rounds` : the rational numbers that round to a number.

## Main results

* `Binary64.eq_of_rounds` : rounding intervals of different numbers are disjoint.
-/

namespace PageRoutes.Binary64

/-- A number as it is kept in the format: with all bits of the significand, unless the exponent is
the least one. -/
structure IsCanonical (x : Binary64) : Prop where
  significand_lt : x.significand < 2 ^ 53
  le_exponent : minExponent ≤ x.exponent
  le_significand : x.exponent = minExponent ∨ 2 ^ 52 ≤ x.significand

/-- The number as a rational number. -/
def value (x : Binary64) : ℚ := x.significand * 2 ^ x.exponent

/-- Whether the numbers below lie closer together than those above. -/
def IsNarrow (x : Binary64) : Prop := x.significand = 2 ^ 52 ∧ minExponent < x.exponent

instance (x : Binary64) : Decidable (IsNarrow x) := inferInstanceAs (Decidable (_ ∧ _))

/-- How far the interval of a number reaches down, in units of its last bit. -/
def reach (x : Binary64) : ℚ := if x.IsNarrow then 1 / 4 else 1 / 2

/-- The lower end of the interval of a number. -/
def lowEnd (x : Binary64) : ℚ := (x.significand - x.reach) * 2 ^ x.exponent

/-- The upper end of the interval of a number. -/
def highEnd (x : Binary64) : ℚ := (x.significand + 1 / 2) * 2 ^ x.exponent

/-- Whether a rational number rounds to a number of the format. -/
def Rounds (x : Binary64) (q : ℚ) : Prop :=
  if x.significand % 2 = 0 then x.lowEnd ≤ q ∧ q ≤ x.highEnd else x.lowEnd < q ∧ q < x.highEnd

variable {x y : Binary64} {q : ℚ}

theorem Rounds.low_le (h : x.Rounds q) : x.lowEnd ≤ q := by
  rw [Rounds] at h
  split at h
  · exact h.1
  · exact h.1.le

theorem Rounds.le_high (h : x.Rounds q) : q ≤ x.highEnd := by
  rw [Rounds] at h
  split at h
  · exact h.2
  · exact h.2.le

/-- The ends belong to the interval if the significand is even only. -/
theorem Rounds.even_of_eq_high (h : x.Rounds q) (heq : q = x.highEnd) : x.significand % 2 = 0 := by
  by_contra hodd
  rw [Rounds, if_neg hodd, heq] at h
  exact lt_irrefl _ h.2

theorem Rounds.even_of_eq_low (h : x.Rounds q) (heq : q = x.lowEnd) : x.significand % 2 = 0 := by
  by_contra hodd
  rw [Rounds, if_neg hodd, heq] at h
  exact lt_irrefl _ h.1

/-- What lies strictly between the ends rounds to the number. -/
theorem rounds_of_lt (hlow : x.lowEnd < q) (hhigh : q < x.highEnd) : x.Rounds q := by
  rw [Rounds]
  split
  · exact ⟨hlow.le, hhigh.le⟩
  · exact ⟨hlow, hhigh⟩

theorem reach_le (x : Binary64) : x.reach ≤ 1 / 2 := by
  rw [reach]
  split <;> norm_num

/-- Among numbers with one exponent the intervals come in the order of the significands. An end that
two of them share belongs to the one with the even significand only. -/
theorem highEnd_le_lowEnd_of_significand_lt (h : x.exponent = y.exponent)
    (hlt : x.significand < y.significand) :
    x.highEnd ≤ y.lowEnd ∧
      (x.highEnd = y.lowEnd → x.significand % 2 = 0 → y.significand % 2 = 1) := by
  have hunit : (0 : ℚ) < 2 ^ y.exponent := by positivity
  have hnext : (x.significand : ℚ) + 1 ≤ y.significand := by exact_mod_cast hlt
  have hreach := reach_le y
  rw [highEnd, lowEnd, h]
  constructor
  · exact mul_le_mul_of_nonneg_right (by linarith) hunit.le
  · intro heq heven
    have hends := mul_right_cancel₀ hunit.ne' heq
    have hcast : (y.significand : ℚ) ≤ x.significand + 1 := by linarith
    have hle : y.significand ≤ x.significand + 1 := by exact_mod_cast hcast
    omega

/-- The numbers above a power of two are at least as far from it as the interval reaches. -/
theorem le_significand_sub_reach (hy : y.IsCanonical) (h : minExponent < y.exponent) :
    (2 : ℚ) ^ 52 - 1 / 4 ≤ y.significand - y.reach := by
  have hge : 2 ^ 52 ≤ y.significand := hy.le_significand.resolve_left h.ne'
  rw [reach]
  split
  · next hnarrow =>
    rw [hnarrow.1]
    norm_num
  · next hnarrow =>
    have hne : y.significand ≠ 2 ^ 52 := fun heq ↦ hnarrow ⟨heq, h⟩
    have hgt : 2 ^ 52 + 1 ≤ y.significand := by omega
    have hcast : (2 : ℚ) ^ 52 + 1 ≤ y.significand := by exact_mod_cast hgt
    linarith

/-- Intervals come in the order of the exponents. An end that two of them share belongs to the one
with the greater exponent only. -/
theorem highEnd_le_lowEnd_of_exponent_lt (hx : x.IsCanonical) (hy : y.IsCanonical)
    (h : x.exponent < y.exponent) :
    x.highEnd ≤ y.lowEnd ∧ (x.highEnd = y.lowEnd → x.significand % 2 = 1) := by
  have hunit : (0 : ℚ) < 2 ^ x.exponent := by positivity
  have hdouble : (2 : ℚ) ^ x.exponent * 2 ≤ 2 ^ y.exponent := by
    rw [← zpow_add_one₀ (by norm_num)]
    exact zpow_le_zpow_right₀ (by norm_num) h
  have hlow := le_significand_sub_reach hy (lt_of_le_of_lt hx.le_exponent h)
  have hlt := hx.significand_lt
  have hmax : (x.significand : ℚ) ≤ 2 ^ 53 - 1 := by
    have hle : (x.significand : ℚ) + 1 ≤ 2 ^ 53 := by exact_mod_cast hlt
    linarith
  have hbetween : (2 ^ 53 - 1 / 2) * 2 ^ x.exponent ≤ y.lowEnd := by
    calc (2 ^ 53 - 1 / 2) * (2 : ℚ) ^ x.exponent
        = (2 ^ 52 - 1 / 4) * (2 ^ x.exponent * 2) := by ring
      _ ≤ (2 ^ 52 - 1 / 4) * 2 ^ y.exponent :=
        mul_le_mul_of_nonneg_left hdouble (by norm_num)
      _ ≤ (y.significand - y.reach) * 2 ^ y.exponent :=
        mul_le_mul_of_nonneg_right hlow (by positivity)
  constructor
  · refine le_trans ?_ hbetween
    exact mul_le_mul_of_nonneg_right (by linarith) hunit.le
  · intro heq
    rw [← heq, highEnd] at hbetween
    have hends := le_of_mul_le_mul_right hbetween hunit
    have hcast : (2 : ℚ) ^ 53 ≤ x.significand + 1 := by linarith
    have hge : 2 ^ 53 ≤ x.significand + 1 := by exact_mod_cast hcast
    omega

/-- Of two numbers that come one after the other only one is rounded to. -/
theorem not_rounds_of_rounds (hx : x.IsCanonical) (hy : y.IsCanonical)
    (h : x.exponent < y.exponent ∨ x.exponent = y.exponent ∧ x.significand < y.significand)
    (hxq : x.Rounds q) : ¬y.Rounds q := by
  intro hyq
  have hhigh := hxq.le_high
  have hlow := hyq.low_le
  rcases h with hexponent | ⟨hexponent, hsignificand⟩
  · obtain ⟨hle, hodd⟩ := highEnd_le_lowEnd_of_exponent_lt hx hy hexponent
    have heven := hxq.even_of_eq_high (by linarith)
    have := hodd (by linarith)
    omega
  · obtain ⟨hle, hodd⟩ := highEnd_le_lowEnd_of_significand_lt hexponent hsignificand
    have hxEven := hxq.even_of_eq_high (by linarith)
    have hyEven := hyq.even_of_eq_low (by linarith)
    have := hodd (by linarith) hxEven
    omega

/-- **Rounding.** A rational number rounds to one number of the format at most. -/
theorem eq_of_rounds (hx : x.IsCanonical) (hy : y.IsCanonical) (hxq : x.Rounds q)
    (hyq : y.Rounds q) : x = y := by
  rcases lt_trichotomy x.exponent y.exponent with hlt | heq | hgt
  · exact absurd hyq (not_rounds_of_rounds hx hy (.inl hlt) hxq)
  · rcases lt_trichotomy x.significand y.significand with hlt | hsame | hgt
    · exact absurd hyq (not_rounds_of_rounds hx hy (.inr ⟨heq, hlt⟩) hxq)
    · obtain ⟨s, e⟩ := x
      obtain ⟨s', e'⟩ := y
      obtain rfl : s = s' := hsame
      obtain rfl : e = e' := heq
      rfl
    · exact absurd hxq (not_rounds_of_rounds hy hx (.inr ⟨heq.symm, hgt⟩) hyq)
  · exact absurd hxq (not_rounds_of_rounds hy hx (.inl hgt) hyq)

end PageRoutes.Binary64
