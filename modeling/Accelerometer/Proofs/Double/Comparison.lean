import Accelerometer.Proofs.Double.Arithmetic

/-!
# Comparing doubles

What comparisons of doubles say about their magnitudes.

* `abs_le_cases`: one magnitude is at most another.
* `within_of_abs_le`, `beyond_of_abs_le`: bounds go over from one to the other.
* `within_div_of_abs_le`: their quotient is at most one.
-/

namespace Accelerometer.Proofs.Double
open Float.Model.UnpackedFloat
open Float.Model (Format UnpackedFloat)

variable {sign : Sign} {m m' : Nat} {e e' k : Int} {x y : Float}

theorem beq_zero : (x == 0.0) = true ↔ ∃ sign, unpacked x = .zero sign := by
  have shown : (x == 0.0) = (unpacked x).beq (.zero .positive) := rfl
  rw [shown, UnpackedFloat.beq]
  cases unpacked x with
  | notANumber => simp [UnpackedFloat.compare]
  | infinity sign => cases sign <;> simp [UnpackedFloat.compare]
  | zero sign => simp [UnpackedFloat.compare]
  | finite sign m e positive => cases sign <;> simp [UnpackedFloat.compare]

theorem beq_self (number : x.isNaN = false) : (x == x) = true := by
  have shown : (x == x) = (unpacked x).beq (unpacked x) := rfl
  have number : (unpacked x).isNaN = false := number
  rw [shown, UnpackedFloat.beq]
  cases found : unpacked x with
  | notANumber =>
      rw [found] at number
      cases number
  | infinity sign => cases sign <;> rfl
  | zero sign => rfl
  | finite sign m e positive => cases sign <;> simp [UnpackedFloat.compare, Ordering.then]

theorem beyond_of_nonzero (within : Within k x) (nonzero : ¬(x == 0.0) = true) :
    Beyond (-1074) x := by
  rw [Beyond]
  rcases within_cases within with ⟨sign, zero⟩ | ⟨sign, m, e, positive, finite, canonical, -⟩
  · exact absurd (beq_zero.mpr ⟨sign, zero⟩) nonzero
  · rw [finite]
    have above := canonical.exponent_ge
    have none : (-1074 - e).toNat = 0 := by omega
    show 2 ^ (-1074 - e).toNat ≤ m
    rw [none]
    exact positive

theorem nonzero_of_beyond (beyond : Beyond k x) : ¬(x == 0.0) = true := by
  intro isZero
  obtain ⟨sign, zero⟩ := beq_zero.mp isZero
  rw [Beyond, zero] at beyond
  exact beyond

theorem not_isFinite_div_zero (zero : (y == 0.0) = true) : (x / y).isFinite = false := by
  obtain ⟨sign, zero⟩ := beq_zero.mp zero
  show (unpacked (x / y)).isFinite = false
  rw [unpacked_div, zero]
  cases unpacked x with
  | notANumber =>
      rw [UnpackedFloat.div, stored_notANumber]
      rfl
  | infinity sign' =>
      rw [UnpackedFloat.div, stored_infinity]
      rfl
  | zero sign' =>
      rw [UnpackedFloat.div, stored_notANumber]
      rfl
  | finite sign' m e positive =>
      rw [UnpackedFloat.div, stored_infinity]
      rfl

theorem mul_isZero (zero : (x == 0.0) = true) (within : Within k y) : (x * y == 0.0) = true := by
  obtain ⟨sign, zero⟩ := beq_zero.mp zero
  rw [beq_zero, unpacked_mul, zero]
  rcases within_cases within with ⟨sign', zero'⟩ | ⟨sign', m, e, positive, finite, -⟩
  · rw [zero', UnpackedFloat.mul]
    exact ⟨_, stored_zero _⟩
  · rw [finite, UnpackedFloat.mul]
    exact ⟨_, stored_zero _⟩

theorem add_isZero (zero : (x == 0.0) = true) (zero' : (y == 0.0) = true) :
    (x + y == 0.0) = true := by
  obtain ⟨sign, zero⟩ := beq_zero.mp zero
  obtain ⟨sign', zero'⟩ := beq_zero.mp zero'
  have sum : unpacked (x + y) =
    stored (UnpackedFloat.add Format.binary64 (unpacked x) (unpacked y)) := rfl
  rw [beq_zero, sum, zero, zero', UnpackedFloat.add]
  split
  · exact ⟨_, stored_zero _⟩
  · exact ⟨_, stored_zero _⟩

theorem unpacked_abs (x : Float) : unpacked x.abs = (unpacked x).abs := by
  have shown : unpacked x.abs = stored (unpacked x).abs := rfl
  rw [shown]
  cases found : unpacked x with
  | notANumber => rfl
  | infinity sign => exact stored_infinity .positive
  | zero sign => exact stored_zero .positive
  | finite sign m e positive =>
      obtain ⟨canonical, small⟩ := unpacked_canonical found
      exact unpack_pack_finite canonical small

theorem lt_iff : x < y ↔ (unpacked x).lt (unpacked y) = true :=
  decide_eq_true_iff

theorem abs_le_iff : x.abs ≤ y.abs ↔ (unpacked x).abs.le (unpacked y).abs = true := by
  rw [← unpacked_abs, ← unpacked_abs]
  exact decide_eq_true_iff

theorem ratio_of_le {positive : 0 < m} {positive' : 0 < m'} (canonical : Canonical m e)
    (canonical' : Canonical m' e')
    (less : (UnpackedFloat.finite .positive m e positive).le
      (.finite .positive m' e' positive') = true) :
    Ratio 0 m e m' e' := by
  rw [UnpackedFloat.le, UnpackedFloat.compare, Option.any_some] at less
  rw [Ratio, Int.sub_zero, Int.zero_sub]
  rcases Int.lt_trichotomy e e' with below | rfl | above
  · -- the greater exponent is not the least one, so that its mantissa is full
    have full := canonical'.full.resolve_right (by have := canonical.exponent_ge; omega)
    have none : (e - e').toNat = 0 := by omega
    have some : 2 ^ 1 ≤ 2 ^ (-(e - e')).toNat := Nat.pow_le_pow_right (by decide) (by omega)
    rw [none, Nat.pow_zero, Nat.mul_one]
    calc
      m ≤ 2 ^ 52 * 2 ^ 1 := canonical.mantissa_lt.le
      _ ≤ m' * 2 ^ (-(e - e')).toNat := Nat.mul_le_mul full some
  · rw [Int.compare_eq_eq.mpr rfl, Ordering.eq_then, Nat.isLE_compare] at less
    rw [Int.sub_self]
    exact Nat.mul_le_mul_right _ less
  · rw [Int.compare_eq_gt.mpr above] at less
    cases less

theorem abs_le_cases (less : x.abs ≤ y.abs) :
    (∃ sign, unpacked x = .zero sign) ∧ unpacked y ≠ .notANumber ∨
    (∃ sign, unpacked y = .infinity sign) ∧ unpacked x ≠ .notANumber ∨
    ∃ sign m e positive sign' m' e' positive', unpacked x = .finite sign m e positive ∧
      unpacked y = .finite sign' m' e' positive' ∧ Ratio 0 m e m' e' := by
  rw [abs_le_iff] at less
  cases first : unpacked x with
  | notANumber =>
      rw [first] at less
      cases less
  | zero sign =>
      refine .inl ⟨⟨sign, rfl⟩, ?_⟩
      intro second
      rw [first, second] at less
      cases less
  | infinity sign =>
      cases second : unpacked y with
      | infinity sign' => exact .inr (.inl ⟨⟨sign', rfl⟩, nofun⟩)
      | _ =>
          rw [first, second] at less
          cases less
  | finite sign m e positive =>
      cases second : unpacked y with
      | infinity sign' => exact .inr (.inl ⟨⟨sign', rfl⟩, nofun⟩)
      | finite sign' m' e' positive' =>
          rw [first, second] at less
          have ratio := ratio_of_le (unpacked_canonical first).1 (unpacked_canonical second).1 less
          exact .inr (.inr ⟨_, _, _, _, _, _, _, _, rfl, rfl, ratio⟩)
      | _ =>
          rw [first, second] at less
          cases less

theorem fits_of_ratio {a : Int} (positive : 0 < m) (ratio : Ratio k m e m' e') (fits : Fits a m' e') :
    Fits (a + k) m e := by
  have below := fits.1
  have powers : m * 2 ^ (e - e' - k).toNat ≤ 2 ^ ((a - e').toNat + (k - (e - e')).toNat) := by
    rw [Nat.pow_add]
    exact ratio.trans (Nat.mul_le_mul_right _ fits.2)
  have least : (e - e' - k).toNat ≤ (a - e').toNat + (k - (e - e')).toNat :=
    (Nat.pow_le_pow_iff_right (by decide : 1 < 2)).mp
      ((Nat.le_mul_of_pos_left _ positive).trans powers)
  refine ⟨by omega, Nat.le_of_mul_le_mul_right ?_ (Nat.two_pow_pos (e - e' - k).toNat)⟩
  rw [← Nat.pow_add]
  exact powers.trans (Nat.pow_le_pow_right (by decide) (by omega))

theorem reaches_of_ratio {a : Int} (positive' : 0 < m') (ratio : Ratio k m e m' e')
    (reaches : Reaches a m e) : Reaches (a - k) m' e' := by
  have powers : 2 ^ ((a - e).toNat + (e - e' - k).toNat) ≤ m' * 2 ^ (k - (e - e')).toNat := by
    rw [Nat.pow_add]
    exact (Nat.mul_le_mul_right _ reaches).trans ratio
  by_cases low : a - k ≤ e'
  · have none : (a - k - e').toNat = 0 := by omega
    rw [Reaches, none]
    exact positive'
  · refine Nat.le_of_mul_le_mul_right ?_ (Nat.two_pow_pos (k - (e - e')).toNat)
    rw [← Nat.pow_add]
    exact (Nat.pow_le_pow_right (by decide) (by omega)).trans powers

theorem within_of_abs_le (less : x.abs ≤ y.abs) (within : Within k y) : Within k x := by
  rw [Within] at within ⊢
  rcases abs_le_cases less with ⟨⟨sign, zero⟩, -⟩ | ⟨⟨sign, infinite⟩, -⟩ |
    ⟨sign, m, e, positive, sign', m', e', positive', finite, finite', ratio⟩
  · rw [zero]
    trivial
  · rw [infinite] at within
    exact within.elim
  · rw [finite'] at within
    rw [finite, ← Int.add_zero k]
    exact fits_of_ratio positive ratio within

theorem beyond_of_abs_le (less : x.abs ≤ y.abs) (beyond : Beyond k x) : Beyond k y := by
  rw [Beyond] at beyond ⊢
  rcases abs_le_cases less with ⟨⟨sign, zero⟩, -⟩ | ⟨⟨sign, infinite⟩, -⟩ |
    ⟨sign, m, e, positive, sign', m', e', positive', finite, finite', ratio⟩
  · rw [zero] at beyond
    exact beyond.elim
  · rw [infinite]
    trivial
  · rw [finite] at beyond
    rw [finite', ← Int.sub_zero k]
    exact reaches_of_ratio positive' ratio beyond

theorem within_div_of_abs_le (less : x.abs ≤ y.abs) (finite : x.isFinite = true)
    (nonzero : ¬(y == 0.0) = true) : Within 0 (x / y) := by
  have finite : (unpacked x).isFinite = true := finite
  rw [Within, unpacked_div]
  rcases abs_le_cases less with ⟨⟨sign, zero⟩, number⟩ | ⟨⟨sign, infinite⟩, -⟩ |
    ⟨sign, m, e, positive, sign', m', e', positive', finite, finite', ratio⟩
  · rw [zero]
    cases found : unpacked y with
    | notANumber => exact absurd found number
    | zero sign' => exact absurd (beq_zero.mpr ⟨sign', found⟩) nonzero
    | infinity sign' =>
        rw [UnpackedFloat.div, stored_zero]
        trivial
    | finite sign' m e positive =>
        rw [UnpackedFloat.div, stored_zero]
        trivial
  · rw [infinite]
    cases found : unpacked x with
    | notANumber =>
        rw [found] at finite
        cases finite
    | infinity sign' =>
        rw [found] at finite
        cases finite
    | zero sign' =>
        rw [UnpackedFloat.div, stored_zero]
        trivial
    | finite sign' m e positive =>
        rw [UnpackedFloat.div, stored_zero]
        trivial
  · rw [finite, finite']
    exact atMostPower_div sign sign' positive positive' ratio (by decide) (by decide)

theorem le_of_unpacked_lt {first second : UnpackedFloat} (less : first.lt second = true) :
    first.le second = true := by
  rw [UnpackedFloat.lt, beq_iff_eq] at less
  rw [UnpackedFloat.le, less]
  rfl

theorem abs_le_of_lt (positive : 0.0 < x) (less : x < y) :
    x.abs ≤ y.abs ∧ x.isFinite = true ∧ ¬(y == 0.0) = true := by
  have zero : unpacked 0.0 = .zero .positive := rfl
  rw [lt_iff, zero] at positive
  rw [lt_iff] at less
  rw [abs_le_iff, beq_zero]
  show _ ∧ (unpacked x).isFinite = true ∧ _
  cases first : unpacked x with
  | notANumber =>
      rw [first] at positive
      cases positive
  | zero sign =>
      rw [first] at positive
      cases positive
  | infinity sign =>
      rw [first] at positive less
      cases sign with
      | negative => cases positive
      | positive =>
          cases second : unpacked y with
          | infinity sign' =>
              rw [second] at less
              cases sign' <;> cases less
          | _ =>
              rw [second] at less
              cases less
  | finite sign m e mantissa_pos =>
      rw [first] at positive less
      cases sign with
      | negative => cases positive
      | positive =>
          cases second : unpacked y with
          | infinity sign' => exact ⟨rfl, rfl, nofun⟩
          | finite sign' m' e' mantissa_pos' =>
              rw [second] at less
              cases sign' with
              | negative => cases less
              | positive => exact ⟨le_of_unpacked_lt less, rfl, nofun⟩
          | _ =>
              rw [second] at less
              cases less

end Accelerometer.Proofs.Double
