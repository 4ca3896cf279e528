import Accelerometer.Decimal.Digits
import Mathlib

/-!
# Nearest whole numbers

Rounding a fraction gives the whole number nearest to it, and fractions of natural numbers stand for
exact products of powers of two and ten.

* `isNearest_roundDiv`: what rounding with ties to even gives.
* `IsNearest.mono`, `IsNearest.unique`: there is one such number, and more rounds to more.
* `scaled_value`: the fractions, as rational numbers.
-/

namespace Accelerometer.Proofs.Decimal
open Accelerometer.Decimal

variable {number other : ℚ} {count count' : ℤ}

/-- The whole number nearest to a number; of two that are equally near, the even one. -/
structure IsNearest (number : ℚ) (count : ℤ) : Prop where
  near : |number - count| ≤ 1 / 2
  even : |number - count| = 1 / 2 → Even count

theorem IsNearest.mono (less : number ≤ other) (first : IsNearest number count)
    (second : IsNearest other count') : count ≤ count' := by
  by_contra above
  have apart : (count' : ℚ) + 1 ≤ count := by exact_mod_cast not_le.mp above
  have low := (abs_le.mp first.near).1
  have high := (abs_le.mp second.near).2
  -- both numbers lie half way between two neighbours, of which only one is even
  have half : number - count = -(1 / 2) := by linarith
  have half' : other - count' = 1 / 2 := by linarith
  have neighbours : count = count' + 1 := by
    have : (count : ℚ) = count' + 1 := by linarith
    exact_mod_cast this
  have even := first.even (by rw [half]; norm_num)
  have even' := second.even (by rw [half']; norm_num)
  rw [neighbours, Int.even_add_one] at even
  exact even even'

theorem IsNearest.unique (first : IsNearest number count) (second : IsNearest number count') :
    count = count' :=
  le_antisymm (first.mono le_rfl second) (second.mono le_rfl first)

theorem IsNearest.add_even (nearest : IsNearest number count) {shift : ℤ} (even : Even shift) :
    IsNearest (number + shift) (count + shift) := by
  have same : number + shift - ((count + shift : ℤ) : ℚ) = number - count := by
    push_cast
    ring
  constructor
  · rw [same]
    exact nearest.near
  · rw [same]
    intro half
    exact (nearest.even half).add even

theorem isNearest_roundDiv (num : Nat) {den : Nat} (positive : 0 < den) :
    IsNearest (num / den) (roundDiv .toEven num den : ℕ) := by
  have parts : (den : ℚ) * (num / den : ℕ) + (num % den : ℕ) = num := by
    exact_mod_cast Nat.div_add_mod num den
  have denominator : (0 : ℚ) < den := by exact_mod_cast positive
  have value : (num : ℚ) / den = (num / den : ℕ) + (num % den : ℕ) / den := by
    rw [← parts]
    field_simp
  have rest : (num % den : ℕ) < (den : ℚ) := by exact_mod_cast Nat.mod_lt num positive
  have least : (0 : ℚ) ≤ (num % den : ℕ) / den := by positivity
  rw [value, roundDiv]
  generalize num / den = whole at *
  generalize num % den = left at *
  split
  · rename_i below
    have below : (2 * left : ℚ) < den := by exact_mod_cast below
    have less : (left : ℚ) / den < 1 / 2 := by
      rw [div_lt_div_iff₀ denominator (by norm_num)]
      linarith
    have distance : |(whole : ℚ) + left / den - ((whole : ℕ) : ℤ)| < 1 / 2 := by
      push_cast
      rw [abs_lt]
      constructor <;> linarith
    exact ⟨distance.le, fun half => absurd half distance.ne⟩
  · split
    · rename_i above
      have above : (den : ℚ) < 2 * left := by exact_mod_cast above
      have more : 1 / 2 < (left : ℚ) / den := by
        rw [div_lt_div_iff₀ (by norm_num) denominator]
        linarith
      have most : (left : ℚ) / den < 1 := (div_lt_one denominator).mpr rest
      have distance : |(whole : ℚ) + left / den - ((whole + 1 : ℕ) : ℤ)| < 1 / 2 := by
        push_cast
        rw [abs_lt]
        constructor <;> linarith
      exact ⟨distance.le, fun half => absurd half distance.ne⟩
    · rename_i notBelow notAbove
      have equal : (2 * left : ℚ) = den := by exact_mod_cast (by omega : 2 * left = den)
      have half : (left : ℚ) / den = 1 / 2 := by
        rw [div_eq_div_iff denominator.ne' (by norm_num)]
        linarith
      refine ⟨?_, fun _ => ?_⟩
      · rw [half]
        rcases Nat.mod_two_eq_zero_or_one whole with zero | one
        · rw [zero]
          norm_num
        · rw [one]
          push_cast
          norm_num [abs_le]
      · rw [Int.even_coe_nat, Nat.even_iff]
        omega

/-! ## Fractions of powers -/

theorem powers_value (base : Nat) (positive : 0 < base) (power : ℤ) :
    ((Nat.pow base power.toNat : ℕ) : ℚ) / (Nat.pow base (-power).toNat : ℕ) = (base : ℚ) ^ power := by
  have nonzero : (base : ℚ) ≠ 0 := by exact_mod_cast positive.ne'
  rcases le_total 0 power with above | below
  · have none : (-power).toNat = 0 := by omega
    have some : ((power.toNat : ℕ) : ℤ) = power := Int.toNat_of_nonneg above
    rw [none]
    push_cast [Nat.pow_eq]
    rw [pow_zero, div_one, ← zpow_natCast, some]
  · have none : power.toNat = 0 := by omega
    have some : (((-power).toNat : ℕ) : ℤ) = -power := Int.toNat_of_nonneg (by omega)
    rw [none]
    push_cast [Nat.pow_eq]
    rw [pow_zero, ← zpow_natCast, some, zpow_neg, one_div, inv_inv]

theorem scaled_value (significand : Nat) (exponent places : ℤ) :
    ((scaled significand exponent places).1 : ℚ) / (scaled significand exponent places).2 =
      significand * 2 ^ exponent * 10 ^ places := by
  have two := powers_value 2 (by decide) exponent
  have ten := powers_value 10 (by decide) places
  rw [Nat.cast_ofNat] at two ten
  simp only [scaled, Nat.cast_mul]
  rw [← two, ← ten]
  ring

theorem scaled_positive (significand : Nat) (exponent places : ℤ) :
    0 < (scaled significand exponent places).2 :=
  Nat.mul_pos (Nat.pow_pos (by decide)) (Nat.pow_pos (by decide))

end Accelerometer.Proofs.Decimal
