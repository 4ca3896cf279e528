import Mathlib

/-!
# Rounding to doubles

A mantissa times a power of two is rounded to a double by dropping its last bits. That takes no number
past a power of two, in either direction.

* `shifted_canonical`, `shifted_fits`, `shifted_reaches`: dropping bits.
* `atMost_shift`: what has been dropped is remembered well enough to round.
* `round_bounds`: rounding.
-/

namespace Accelerometer.Proofs.Double
open Float.Model Float.Model.UnpackedFloat

variable {mantissa amount bound : Nat} {exponent k : Int} {accuracy : Accuracy}
  {extended : ExtendedMantissa}

def Fits (k : Int) (mantissa : Nat) (exponent : Int) : Prop :=
  exponent ≤ k ∧ mantissa ≤ 2 ^ (k - exponent).toNat

def Reaches (k : Int) (mantissa : Nat) (exponent : Int) : Prop :=
  2 ^ (k - exponent).toNat ≤ mantissa

/-- What doubles are made of: 53 bits, or fewer with the least exponent. -/
structure Canonical (mantissa : Nat) (exponent : Int) : Prop where
  mantissa_lt : mantissa < 2 ^ 53
  exponent_ge : -1074 ≤ exponent
  full : 2 ^ 52 ≤ mantissa ∨ exponent = -1074

def Wide (mantissa : Nat) (exponent : Int) : Prop :=
  2 ^ 52 ≤ mantissa ∨ exponent ≤ -1074

/-! ## Dropping bits -/

def excess (mantissa : Nat) (exponent : Int) : Nat :=
  (Format.binary64.targetExponent (totalExponent mantissa exponent) - exponent).toNat

theorem excess_eq (mantissa : Nat) (exponent : Int) :
    excess mantissa exponent =
      (max (mantissa.log2 + exponent - 52) (-1074) - exponent).toNat := by
  have target : Format.binary64.targetExponent (totalExponent mantissa exponent) =
      max (mantissa.log2 + 1 + exponent - 53) (-1074) := rfl
  rw [excess, target]
  omega

theorem shifted_lt (mantissa : Nat) (exponent : Int) :
    mantissa / 2 ^ excess mantissa exponent < 2 ^ 53 := by
  have size := Nat.lt_log2_self (n := mantissa)
  have less : 2 ^ (mantissa.log2 + 1) ≤ 2 ^ (53 + excess mantissa exponent) := by
    apply Nat.pow_le_pow_right (by decide)
    rw [excess_eq]
    omega
  rw [Nat.div_lt_iff_lt_mul (Nat.two_pow_pos _), ← Nat.pow_add]
  exact Nat.lt_of_lt_of_le size less

theorem shifted_canonical (wide : Wide mantissa exponent) :
    Canonical (mantissa / 2 ^ excess mantissa exponent) (exponent + excess mantissa exponent) := by
  refine ⟨shifted_lt mantissa exponent, ?_, ?_⟩
  · rw [excess_eq]
    omega
  · by_cases least : exponent + excess mantissa exponent = -1074
    · exact .inr least
    · left
      rw [Nat.le_div_iff_mul_le (Nat.two_pow_pos _), ← Nat.pow_add]
      rw [excess_eq] at least ⊢
      by_cases none : (mantissa.log2 + exponent - 52 : Int) ≤ exponent
      · have zero : (max (mantissa.log2 + exponent - 52) (-1074) - exponent).toNat = 0 := by
          rcases wide with _ | _ <;> omega
        rw [zero]
        rcases wide with full | low
        · exact full
        · omega
      · have nonzero : mantissa ≠ 0 := by
          rintro rfl
          rw [Nat.log2_zero] at none
          omega
        have bits : 52 + (max (mantissa.log2 + exponent - 52) (-1074) - exponent).toNat =
            mantissa.log2 := by omega
        rw [bits]
        exact Nat.log2_self_le nonzero

theorem log2_le_of_fits (nonzero : mantissa ≠ 0) (fits : Fits k mantissa exponent) :
    mantissa.log2 + exponent ≤ k := by
  have bits := (Nat.pow_le_pow_iff_right (by decide : 1 < 2)).mp
    ((Nat.log2_self_le nonzero).trans fits.2)
  have := fits.1
  omega

theorem shifted_le (least : -1074 ≤ k) (fits : Fits k mantissa exponent) :
    exponent + excess mantissa exponent ≤ k := by
  have below := fits.1
  rw [excess_eq]
  by_cases nonzero : mantissa = 0
  · rw [nonzero, Nat.log2_zero]
    omega
  · have := log2_le_of_fits nonzero fits
    omega

theorem shifted_fits (least : -1074 ≤ k) (fits : Fits k mantissa exponent) :
    Fits k (mantissa / 2 ^ excess mantissa exponent) (exponent + excess mantissa exponent) := by
  have below := shifted_le least fits
  refine ⟨below, Nat.div_le_of_le_mul ?_⟩
  have sum : excess mantissa exponent + (k - (exponent + excess mantissa exponent)).toNat =
      (k - exponent).toNat := by omega
  rw [← Nat.pow_add, sum]
  exact fits.2

theorem shifted_reaches (least : -1074 ≤ k) (reaches : Reaches k mantissa exponent) :
    Reaches k (mantissa / 2 ^ excess mantissa exponent) (exponent + excess mantissa exponent) := by
  have nonzero : mantissa ≠ 0 := Nat.ne_of_gt ((Nat.two_pow_pos _).trans_le reaches)
  have bits : (k - exponent).toNat ≤ mantissa.log2 := (Nat.le_log2 nonzero).mpr reaches
  rw [Reaches, Nat.le_div_iff_mul_le (Nat.two_pow_pos _), ← Nat.pow_add]
  apply (Nat.le_log2 nonzero).mp
  rw [excess_eq]
  omega

/-! ## What has been dropped -/

def AtMost (bound : Nat) (extended : ExtendedMantissa) : Prop :=
  extended.mantissa < bound ∨ extended = ⟨bound, false, false⟩

theorem shift_succ (extended : ExtendedMantissa) (amount : Nat) :
    extended >>> (amount + 1) = (extended >>> amount).shiftRightOne := rfl

theorem atMost_shift (atMost : AtMost (bound * 2 ^ amount) extended) :
    AtMost bound (extended >>> amount) := by
  induction amount generalizing bound with
  | zero =>
      rw [Nat.pow_zero, Nat.mul_one] at atMost
      exact atMost
  | succ amount ih =>
      rw [Nat.pow_succ', ← Nat.mul_assoc] at atMost
      rw [shift_succ]
      rcases ih atMost with less | equal
      · left
        rw [ExtendedMantissa.shiftRightOne]
        exact Nat.div_lt_of_lt_mul (by rwa [Nat.mul_comm])
      · right
        rw [equal, ExtendedMantissa.shiftRightOne]
        simp

theorem mantissa_shift (extended : ExtendedMantissa) (amount : Nat) :
    (extended >>> amount).mantissa = extended.mantissa / 2 ^ amount := by
  induction amount with
  | zero => exact (Nat.div_one _).symm
  | succ amount ih =>
      rw [shift_succ, ExtendedMantissa.shiftRightOne, ih, Nat.div_div_eq_div_mul, Nat.pow_succ]

theorem mantissa_ofMantissaAndAccuracy (mantissa : Nat) (accuracy : Accuracy) :
    (ExtendedMantissa.ofMantissaAndAccuracy mantissa accuracy).mantissa = mantissa := by
  rcases accuracy with _ | ⟨_ | _ | _⟩ <;> rfl

theorem rounded_le (atMost : AtMost bound extended) : extended.roundedMantissa ≤ bound := by
  rcases atMost with less | rfl
  · obtain ⟨mantissa, _ | _, _ | _⟩ := extended
    all_goals simp only [ExtendedMantissa.roundedMantissa, ExtendedMantissa.accuracy,
      Accuracy.roundToNearestEven] at less ⊢
    all_goals omega
  · exact Nat.le_refl bound

theorem le_rounded (extended : ExtendedMantissa) : extended.mantissa ≤ extended.roundedMantissa := by
  obtain ⟨mantissa, _ | _, _ | _⟩ := extended
  all_goals simp only [ExtendedMantissa.roundedMantissa, ExtendedMantissa.accuracy,
    Accuracy.roundToNearestEven]
  all_goals omega

/-! ## Rounding -/

theorem roundWithAccuracy_eq (sign : Sign) {rounded : Nat}
    (once : (ExtendedMantissa.ofMantissaAndAccuracy mantissa accuracy >>>
      excess mantissa exponent).roundedMantissa = rounded) :
    let exponent' := exponent + excess mantissa exponent
    roundWithAccuracy Format.binary64 sign mantissa exponent accuracy =
      if nonzero : rounded / 2 ^ excess rounded exponent' = 0 then .zero sign
      else .finite sign (rounded / 2 ^ excess rounded exponent')
        (exponent' + excess rounded exponent') (Nat.pos_of_ne_zero nonzero) := by
  intro exponent'
  have final : (ExtendedMantissa.ofMantissaAndAccuracy rounded .exact >>>
      excess rounded exponent').mantissa = rounded / 2 ^ excess rounded exponent' := by
    rw [mantissa_shift, mantissa_ofMantissaAndAccuracy]
  subst once
  simp only [← final]
  rfl

/-- The number that is rounded is at most `2 ^ k`, counting what has been dropped before. -/
def FitsWith (k : Int) (mantissa : Nat) (exponent : Int) (accuracy : Accuracy) : Prop :=
  exponent ≤ k ∧
    AtMost (2 ^ (k - exponent).toNat) (ExtendedMantissa.ofMantissaAndAccuracy mantissa accuracy)

theorem fits_of_fitsWith (fits : FitsWith k mantissa exponent accuracy) :
    Fits k mantissa exponent := by
  refine ⟨fits.1, ?_⟩
  rcases fits.2 with less | equal
  · rw [mantissa_ofMantissaAndAccuracy] at less
    exact less.le
  · have same := congrArg ExtendedMantissa.mantissa equal
    rw [mantissa_ofMantissaAndAccuracy] at same
    exact same.le

theorem fitsWith_exact (fits : Fits k mantissa exponent) : FitsWith k mantissa exponent .exact := by
  refine ⟨fits.1, ?_⟩
  rcases Nat.lt_or_eq_of_le fits.2 with less | equal
  · exact .inl less
  · exact .inr (congrArg (ExtendedMantissa.mk · false false) equal)

/-- Rounding gives a double that is on the same side of each power of two that is a double. -/
theorem round_bounds (sign : Sign) (wide : Wide mantissa exponent) (accuracy : Accuracy) :
    ∃ mantissa' exponent', Canonical mantissa' exponent' ∧
      roundWithAccuracy Format.binary64 sign mantissa exponent accuracy =
        (if nonzero : mantissa' = 0 then .zero sign
        else .finite sign mantissa' exponent' (Nat.pos_of_ne_zero nonzero)) ∧
      (∀ k, -1074 ≤ k → FitsWith k mantissa exponent accuracy → Fits k mantissa' exponent') ∧
      (∀ k, -1074 ≤ k → Reaches k mantissa exponent → Reaches k mantissa' exponent') := by
  obtain ⟨-, above, full⟩ := shifted_canonical wide
  obtain ⟨rounded, once⟩ : ∃ rounded, (ExtendedMantissa.ofMantissaAndAccuracy mantissa accuracy >>>
    excess mantissa exponent).roundedMantissa = rounded := ⟨_, rfl⟩
  have more : mantissa / 2 ^ excess mantissa exponent ≤ rounded := by
    have kept := le_rounded
      (ExtendedMantissa.ofMantissaAndAccuracy mantissa accuracy >>> excess mantissa exponent)
    rwa [once, mantissa_shift, mantissa_ofMantissaAndAccuracy] at kept
  have less : ∀ k, -1074 ≤ k → FitsWith k mantissa exponent accuracy →
      Fits k rounded (exponent + excess mantissa exponent) := by
    intro k least fits
    have below := shifted_le least (fits_of_fitsWith fits)
    refine ⟨below, once ▸ rounded_le (atMost_shift ?_)⟩
    have sum : (k - (exponent + excess mantissa exponent)).toNat + excess mantissa exponent =
        (k - exponent).toNat := by omega
    rw [← Nat.pow_add, sum]
    exact fits.2
  -- rounding up may give one bit too many, which is dropped in the same way
  have wide' : Wide rounded (exponent + excess mantissa exponent) := by
    rcases full with full | least
    · exact .inl (full.trans more)
    · exact .inr least.le
  refine ⟨_, _, shifted_canonical wide', roundWithAccuracy_eq sign once, ?_, ?_⟩
  · intro k least fits
    exact shifted_fits least (less k least fits)
  · intro k least reaches
    exact shifted_reaches least ((shifted_reaches least reaches).trans more)

end Accelerometer.Proofs.Double
