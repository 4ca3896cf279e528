import Accelerometer.Proofs.Double.Packing

/-!
# Bounds of double arithmetic

How large the results of the operations on doubles are, as powers of two. There is no rounding in these
bounds, and none of them leaves room for an overflow.

* `within_mul`, `beyond_mul`: products.
* `within_sub`, `sub_self_of_isFinite`, `sub_self_of_not_isFinite`: differences.
* `within_div`: quotients.
* `within_ofNat`, `ofNat_bounds`: natural numbers.
-/

namespace Accelerometer.Proofs.Double
open Float.Model.UnpackedFloat
open Float.Model (Format UnpackedFloat totalExponent)

variable {sign : Sign} {accuracy : Accuracy} {m m' : Nat} {e e' a b k : Int} {x y : Float}

def unpacked (x : Float) : UnpackedFloat :=
  x.toModel.unpack

def stored (result : UnpackedFloat) : UnpackedFloat :=
  UnpackedFloat.unpack Format.binary64 (UnpackedFloat.pack Format.binary64 result)

def AtMostPower (k : Int) : UnpackedFloat → Prop
  | .zero _ => True
  | .finite _ mantissa exponent _ => Fits k mantissa exponent
  | _ => False

def AtLeastPower (k : Int) : UnpackedFloat → Prop
  | .infinity _ => True
  | .finite _ mantissa exponent _ => Reaches k mantissa exponent
  | _ => False

def Within (k : Int) (x : Float) : Prop :=
  AtMostPower k (unpacked x)

def Beyond (k : Int) (x : Float) : Prop :=
  AtLeastPower k (unpacked x)

instance : Decidable (Fits k m e) :=
  inferInstanceAs (Decidable (e ≤ k ∧ m ≤ 2 ^ (k - e).toNat))

instance : Decidable (Reaches k m e) :=
  inferInstanceAs (Decidable (2 ^ (k - e).toNat ≤ m))

instance : (result : UnpackedFloat) → Decidable (AtMostPower k result)
  | .zero _ => inferInstanceAs (Decidable True)
  | .finite _ mantissa exponent _ => inferInstanceAs (Decidable (Fits k mantissa exponent))
  | .infinity _ | .notANumber => inferInstanceAs (Decidable False)

instance : (result : UnpackedFloat) → Decidable (AtLeastPower k result)
  | .infinity _ => inferInstanceAs (Decidable True)
  | .finite _ mantissa exponent _ => inferInstanceAs (Decidable (Reaches k mantissa exponent))
  | .zero _ | .notANumber => inferInstanceAs (Decidable False)

instance : Decidable (Within k x) :=
  inferInstanceAs (Decidable (AtMostPower k (unpacked x)))

instance : Decidable (Beyond k x) :=
  inferInstanceAs (Decidable (AtLeastPower k (unpacked x)))

theorem unpacked_canonical {positive : 0 < m} (finite : unpacked x = .finite sign m e positive) :
    Canonical m e ∧ e ≤ 971 :=
  unpack_canonical finite

theorem within_cases (within : Within k x) :
    (∃ sign, unpacked x = .zero sign) ∨ ∃ sign mantissa exponent positive,
      unpacked x = .finite sign mantissa exponent positive ∧ Canonical mantissa exponent ∧
      Fits k mantissa exponent := by
  unfold Within AtMostPower at within
  split at within
  · rename_i sign zero
    exact .inl ⟨sign, zero⟩
  · rename_i sign mantissa exponent positive finite
    exact .inr ⟨sign, mantissa, exponent, positive, finite, (unpacked_canonical finite).1, within⟩
  · exact within.elim

theorem beyond_cases (beyond : Beyond k x) :
    (∃ sign, unpacked x = .infinity sign) ∨ ∃ sign mantissa exponent positive,
      unpacked x = .finite sign mantissa exponent positive ∧ Canonical mantissa exponent ∧
      Reaches k mantissa exponent := by
  unfold Beyond AtLeastPower at beyond
  split at beyond
  · rename_i sign infinite
    exact .inl ⟨sign, infinite⟩
  · rename_i sign mantissa exponent positive finite
    exact .inr ⟨sign, mantissa, exponent, positive, finite, (unpacked_canonical finite).1, beyond⟩
  · exact beyond.elim

theorem fits_mono (less : a ≤ b) (fits : Fits a m e) : Fits b m e :=
  ⟨fits.1.trans less, fits.2.trans (Nat.pow_le_pow_right (by decide) (by omega))⟩

theorem within_mono (less : a ≤ b) (within : Within a x) : Within b x := by
  rw [Within]
  rcases within_cases within with ⟨sign, zero⟩ | ⟨sign, mantissa, exponent, positive, finite, -, fits⟩
  · rw [zero]
    trivial
  · rw [finite]
    exact fits_mono less fits

theorem isFinite_of_within (within : Within k x) : x.isFinite = true := by
  show (unpacked x).isFinite = true
  rcases within_cases within with ⟨sign, zero⟩ | ⟨sign, mantissa, exponent, positive, finite, -⟩
  · rw [zero]
    rfl
  · rw [finite]
    rfl

/-! ## Storing a result -/

theorem stored_zero (sign : Sign) : stored (.zero sign) = .zero sign := by
  cases sign <;> rfl

theorem stored_notANumber : stored .notANumber = .notANumber := rfl

theorem stored_infinity (sign : Sign) : stored (.infinity sign) = .infinity sign := by
  cases sign <;> rfl

theorem exponent_le_of_fits (canonical : Canonical m e) (small : k ≤ 1023) (fits : Fits k m e) :
    e ≤ 971 := by
  by_contra large
  have full : 2 ^ 52 ≤ m := canonical.full.resolve_right (by omega)
  have less : 2 ^ (k - e).toNat ≤ 2 ^ 51 := Nat.pow_le_pow_right (by decide) (by omega)
  have := fits.2
  omega

theorem stored_round (sign : Sign) (wide : Wide m e) (fits : FitsWith k m e accuracy)
    (least : -1074 ≤ k) (small : k ≤ 1023) :
    AtMostPower k (stored (roundWithAccuracy Format.binary64 sign m e accuracy)) ∧
    ∀ j, -1074 ≤ j → Reaches j m e →
      AtLeastPower j (stored (roundWithAccuracy Format.binary64 sign m e accuracy)) := by
  obtain ⟨mantissa, exponent, canonical, result, above, below⟩ := round_bounds sign wide accuracy
  have fits := above k least fits
  rw [result]
  split
  · rename_i zero
    rw [stored_zero]
    refine ⟨trivial, ?_⟩
    intro j least reaches
    have none := below j least reaches
    rw [Reaches, zero] at none
    exact absurd none (Nat.not_le.mpr (Nat.two_pow_pos _))
  · rw [stored, unpack_pack_finite canonical (exponent_le_of_fits canonical small fits)]
    exact ⟨fits, below⟩

/-! ## Products -/

theorem unpacked_mul (x y : Float) :
    unpacked (x * y) = stored (UnpackedFloat.mul Format.binary64 (unpacked x) (unpacked y)) := rfl

theorem fits_mul (fits : Fits a m e) (fits' : Fits b m' e') : Fits (a + b) (m * m') (e + e') := by
  refine ⟨Int.add_le_add fits.1 fits'.1, (Nat.mul_le_mul fits.2 fits'.2).trans ?_⟩
  rw [← Nat.pow_add]
  have := fits.1
  have := fits'.1
  exact Nat.pow_le_pow_right (by decide) (by omega)

theorem reaches_mul (reaches : Reaches a m e) (reaches' : Reaches b m' e') :
    Reaches (a + b) (m * m') (e + e') := by
  have product := Nat.mul_le_mul reaches reaches'
  rw [← Nat.pow_add] at product
  exact (Nat.pow_le_pow_right (by decide) (by omega)).trans product

theorem wide_mul (canonical : Canonical m e) (canonical' : Canonical m' e') (positive : 0 < m)
    (positive' : 0 < m') : Wide (m * m') (e + e') := by
  rcases canonical.full with full | least
  · exact .inl (full.trans (Nat.le_mul_of_pos_right m positive'))
  · rcases canonical'.full with full' | least'
    · exact .inl (full'.trans (Nat.le_mul_of_pos_left m' positive))
    · exact .inr (by omega)

theorem within_mul (within : Within a x) (within' : Within b y) (least : -1074 ≤ a + b)
    (small : a + b ≤ 1023) : Within (a + b) (x * y) := by
  rw [Within, unpacked_mul]
  rcases within_cases within with ⟨sign, zero⟩ | ⟨sign, m, e, positive, finite, canonical, fits⟩
  · rcases within_cases within' with ⟨sign', zero'⟩ | ⟨sign', m', e', positive', finite', -⟩
    · rw [zero, zero', UnpackedFloat.mul, stored_zero]
      trivial
    · rw [zero, finite', UnpackedFloat.mul, stored_zero]
      trivial
  · rcases within_cases within' with
      ⟨sign', zero'⟩ | ⟨sign', m', e', positive', finite', canonical', fits'⟩
    · rw [finite, zero', UnpackedFloat.mul, stored_zero]
      trivial
    · rw [finite, finite', UnpackedFloat.mul]
      exact (stored_round _ (wide_mul canonical canonical' positive positive')
        (fitsWith_exact (fits_mul fits fits')) least small).1

theorem finite_cases (within : Within k x) (beyond : Beyond a x) :
    ∃ sign mantissa exponent positive, unpacked x = .finite sign mantissa exponent positive ∧
      Canonical mantissa exponent ∧ Fits k mantissa exponent ∧ Reaches a mantissa exponent := by
  rw [Beyond] at beyond
  rcases within_cases within with ⟨sign, zero⟩ | ⟨sign, m, e, positive, finite, canonical, fits⟩
  · rw [zero] at beyond
    exact beyond.elim
  · rw [finite] at beyond
    exact ⟨sign, m, e, positive, finite, canonical, fits, beyond⟩

theorem beyond_mul {c d : Int} (within : Within c x) (within' : Within d y) (beyond : Beyond a x)
    (beyond' : Beyond b y) (least : -1074 ≤ a + b) (small : c + d ≤ 1023) :
    Beyond (a + b) (x * y) := by
  obtain ⟨sign, m, e, positive, finite, canonical, fits, reaches⟩ := finite_cases within beyond
  obtain ⟨sign', m', e', positive', finite', canonical', fits', reaches'⟩ :=
    finite_cases within' beyond'
  rw [Beyond, unpacked_mul, finite, finite', UnpackedFloat.mul]
  exact (stored_round _ (wide_mul canonical canonical' positive positive')
    (fitsWith_exact (fits_mono small (fits_mul fits fits'))) (by decide) (Int.le_refl _)).2 _ least
      (reaches_mul reaches reaches')

/-! ## Differences -/

theorem unpacked_sub (x y : Float) :
    unpacked (x - y) = stored (UnpackedFloat.sub Format.binary64 (unpacked x) (unpacked y)) := rfl

theorem decreased (positive : 0 < m) (fits : Fits k m e) :
    let target := Format.binary64.targetExponent (totalExponent m e)
    let decreased := decreaseExponent m e target
    Wide decreased.1 decreased.2 ∧ Fits k decreased.1 decreased.2 ∧
      ∀ j, Reaches j m e → Reaches j decreased.1 decreased.2 := by
  intro target decreased
  have least : target = max (m.log2 + 1 + e - 53) (-1074) := rfl
  have shifted : decreased.1 = m * 2 ^ (e - target).toNat := Nat.shiftLeft_eq ..
  have moved : decreased.2 = e - (e - target).toNat := rfl
  rw [shifted, moved]
  refine ⟨?_, ?_, ?_⟩
  · by_cases low : e - (e - target).toNat ≤ -1074
    · exact .inr low
    · left
      have lower := Nat.log2_self_le (Nat.ne_of_gt positive)
      calc
        2 ^ 52 ≤ 2 ^ (m.log2 + (e - target).toNat) := Nat.pow_le_pow_right (by decide) (by omega)
        _ = 2 ^ m.log2 * 2 ^ (e - target).toNat := Nat.pow_add ..
        _ ≤ m * 2 ^ (e - target).toNat := Nat.mul_le_mul_right _ lower
  · have below := fits.1
    have sum : (k - (e - (e - target).toNat)).toNat = (k - e).toNat + (e - target).toNat := by omega
    refine ⟨by omega, ?_⟩
    rw [sum, Nat.pow_add]
    exact Nat.mul_le_mul_right _ fits.2
  · intro j reaches
    calc
      2 ^ (j - (e - (e - target).toNat)).toNat ≤ 2 ^ ((j - e).toNat + (e - target).toNat) :=
        Nat.pow_le_pow_right (by decide) (by omega)
      _ = 2 ^ (j - e).toNat * 2 ^ (e - target).toNat := Nat.pow_add ..
      _ ≤ m * 2 ^ (e - target).toNat := Nat.mul_le_mul_right _ reaches

theorem stored_moved (sign : Sign) (positive : 0 < m) (fits : Fits k m e) (least : -1074 ≤ k)
    (small : k ≤ 1023) :
    AtMostPower k (stored (UnpackedFloat.round Format.binary64 sign m e)) ∧
    ∀ j, -1074 ≤ j → Reaches j m e →
      AtLeastPower j (stored (UnpackedFloat.round Format.binary64 sign m e)) := by
  obtain ⟨wide, fits', reaches'⟩ := decreased positive fits
  obtain ⟨above, below⟩ := stored_round sign wide (fitsWith_exact fits') least small
  exact ⟨above, fun j least reaches => below j least (reaches' j reaches)⟩

theorem atMostPower_normalize {difference : Int} (zeroSign : Sign)
    (fits : Fits k difference.natAbs e) (least : -1074 ≤ k) (small : k ≤ 1023) :
    AtMostPower k (stored (UnpackedFloat.normalize Format.binary64 difference e zeroSign)) := by
  rw [UnpackedFloat.normalize]
  split
  · rename_i negative
    rw [Int.compare_eq_lt] at negative
    have magnitude : (-difference).toNat = difference.natAbs := by omega
    rw [magnitude]
    exact (stored_moved _ (by omega) fits least small).1
  · rw [stored_zero]
    trivial
  · rename_i positive
    rw [Int.compare_eq_gt] at positive
    have magnitude : difference.toNat = difference.natAbs := by omega
    rw [magnitude]
    exact (stored_moved _ (by omega) fits least small).1

theorem decreased_le {common : Int} (below : common ≤ e) (fits : Fits k m e) :
    (decreaseExponent m e common).1 ≤ 2 ^ (k - common).toNat := by
  have sum : (k - e).toNat + (e - common).toNat = (k - common).toNat := by
    have := fits.1
    omega
  rw [decreaseExponent, Nat.shiftLeft_eq, ← sum, Nat.pow_add]
  exact Nat.mul_le_mul_right _ fits.2

theorem natAbs_difference (sign sign' : Sign) (m m' : Nat) :
    (sign.apply m - sign'.apply m').natAbs ≤ m + m' := by
  cases sign <;> cases sign' <;> simp only [Sign.apply] <;> omega

theorem within_sub (within : Within k x) (within' : Within k y) (least : -1074 ≤ k)
    (small : k + 1 ≤ 1023) : Within (k + 1) (x - y) := by
  have more : k ≤ k + 1 := by omega
  rw [Within, unpacked_sub]
  rcases within_cases within with ⟨sign, zero⟩ | ⟨sign, m, e, positive, finite, canonical, fits⟩
  · rcases within_cases within' with
      ⟨sign', zero'⟩ | ⟨sign', m', e', positive', finite', canonical', fits'⟩
    · rw [zero, zero', UnpackedFloat.sub]
      split
      · rw [stored_zero]
        trivial
      · rw [stored_zero]
        trivial
    · rw [zero, finite', UnpackedFloat.sub, stored,
        unpack_pack_finite canonical' (unpacked_canonical finite').2]
      exact fits_mono more fits'
  · rcases within_cases within' with ⟨sign', zero'⟩ | ⟨sign', m', e', positive', finite', -, fits'⟩
    · have kept : UnpackedFloat.sub Format.binary64 (.finite sign m e positive) (.zero sign') =
          .finite sign m e positive := rfl
      rw [finite, zero', kept, stored, unpack_pack_finite canonical (unpacked_canonical finite).2]
      exact fits_mono more fits
    · rw [finite, finite', UnpackedFloat.sub]
      apply atMostPower_normalize _ _ (by omega) small
      refine ⟨by have := fits.1; omega, (natAbs_difference ..).trans ?_⟩
      have sum : (k + 1 - min e e').toNat = (k - min e e').toNat + 1 := by
        have := fits.1
        omega
      rw [sum, Nat.pow_succ, Nat.mul_two]
      exact Nat.add_le_add (decreased_le (by omega) fits) (decreased_le (by omega) fits')

theorem sub_self_of_isFinite (finite : x.isFinite = true) : x - x = 0.0 := by
  have finite : (unpacked x).isFinite = true := finite
  have difference : UnpackedFloat.sub Format.binary64 (unpacked x) (unpacked x) = .zero .positive := by
    cases found : unpacked x with
    | zero sign => cases sign <;> rfl
    | finite sign m e positive =>
        rw [UnpackedFloat.sub]
        simp only [Int.sub_self]
        rfl
    | infinity sign =>
        rw [found] at finite
        cases finite
    | notANumber =>
        rw [found] at finite
        cases finite
  exact congrArg (fun result => Float.ofModel (Float.Model.pack result)) difference

theorem sub_self_of_not_isFinite (infinite : x.isFinite = false) : x - x = 0.0 / 0.0 := by
  have infinite : (unpacked x).isFinite = false := infinite
  have difference : UnpackedFloat.sub Format.binary64 (unpacked x) (unpacked x) = .notANumber := by
    cases found : unpacked x with
    | notANumber => rfl
    | infinity sign => cases sign <;> rfl
    | zero sign =>
        rw [found] at infinite
        cases infinite
    | finite sign m e positive =>
        rw [found] at infinite
        cases infinite
  exact congrArg (fun result => Float.ofModel (Float.Model.pack result)) difference

/-! ## Quotients -/

theorem unpacked_div (x y : Float) :
    unpacked (x / y) = stored (UnpackedFloat.div Format.binary64 (unpacked x) (unpacked y)) := rfl

def Ratio (k : Int) (m : Nat) (e : Int) (m' : Nat) (e' : Int) : Prop :=
  m * 2 ^ (e - e' - k).toNat ≤ m' * 2 ^ (k - (e - e')).toNat

theorem log2_le_of_ratio (positive : 0 < m) (ratio : Ratio k m e m' e') :
    m.log2 + e ≤ k + (m'.log2 + 1 + e') := by
  have lower := Nat.log2_self_le (Nat.ne_of_gt positive)
  have upper := Nat.lt_log2_self (n := m')
  have powers : 2 ^ (m.log2 + (e - e' - k).toNat) < 2 ^ (m'.log2 + 1 + (k - (e - e')).toNat) := by
    rw [Nat.pow_add, Nat.pow_add]
    exact ((Nat.mul_le_mul_right _ lower).trans ratio).trans_lt
      (Nat.mul_lt_mul_of_pos_right upper (Nat.two_pow_pos _))
  have less := (Nat.pow_lt_pow_iff_right (by decide : 1 < 2)).mp powers
  omega

theorem divided (positive : 0 < m) (positive' : 0 < m') (ratio : Ratio k m e m' e')
    (least : -1074 ≤ k) :
    let (quotient, exponent, accuracy) := divCore Format.binary64 m e m' e'
    Wide quotient exponent ∧ FitsWith k quotient exponent accuracy := by
  obtain ⟨target, is⟩ : ∃ target, min (e - e')
    (Format.binary64.targetExponent (totalExponent m e - totalExponent m' e')) = target := ⟨_, rfl⟩
  have exact : target = min (e - e')
      (max (m.log2 + 1 + e - (m'.log2 + 1 + e') - 53) (-1074)) := is.symm
  simp only [divCore, is, Nat.shiftLeft_eq]
  have size := log2_le_of_ratio positive ratio
  have below : target ≤ k := by omega
  have upper := Nat.lt_log2_self (n := m')
  refine ⟨?_, below, ?_⟩
  · by_cases low : target ≤ -1074
    · exact .inr low
    · left
      rw [Nat.le_div_iff_mul_le positive']
      have lower := Nat.log2_self_le (Nat.ne_of_gt positive)
      calc
        2 ^ 52 * m' ≤ 2 ^ 52 * 2 ^ (m'.log2 + 1) := Nat.mul_le_mul_left _ upper.le
        _ = 2 ^ (52 + (m'.log2 + 1)) := (Nat.pow_add ..).symm
        _ ≤ 2 ^ (m.log2 + (e - e' - target).toNat) := Nat.pow_le_pow_right (by decide) (by omega)
        _ = 2 ^ m.log2 * 2 ^ (e - e' - target).toNat := Nat.pow_add ..
        _ ≤ m * 2 ^ (e - e' - target).toNat := Nat.mul_le_mul_right _ lower
  · have bound : m * 2 ^ (e - e' - target).toNat ≤ 2 ^ (k - target).toNat * m' := by
      have sum : (e - e' - target).toNat + (k - (e - e')).toNat =
          (e - e' - k).toNat + (k - target).toNat := by omega
      refine Nat.le_of_mul_le_mul_right ?_ (Nat.two_pow_pos (k - (e - e')).toNat)
      calc
        m * 2 ^ (e - e' - target).toNat * 2 ^ (k - (e - e')).toNat
            = m * 2 ^ (e - e' - k).toNat * 2 ^ (k - target).toNat := by
              rw [Nat.mul_assoc, ← Nat.pow_add, sum, Nat.pow_add, Nat.mul_assoc]
        _ ≤ m' * 2 ^ (k - (e - e')).toNat * 2 ^ (k - target).toNat := Nat.mul_le_mul_right _ ratio
        _ = 2 ^ (k - target).toNat * m' * 2 ^ (k - (e - e')).toNat := by ring
    rcases Nat.lt_or_eq_of_le (Nat.div_le_of_le_mul (Nat.mul_comm m' _ ▸ bound)) with less | equal
    · left
      rwa [mantissa_ofMantissaAndAccuracy]
    · right
      -- the quotient has reached its bound, so that nothing remains
      have whole := Nat.div_add_mod (m * 2 ^ (e - e' - target).toNat) m'
      rw [equal, Nat.mul_comm] at whole
      have nothing : m * 2 ^ (e - e' - target).toNat % m' = 0 := by omega
      rw [equal, accuracyOfFraction, if_pos nothing]
      rfl

theorem atMostPower_div (sign sign' : Sign) (positive : 0 < m) (positive' : 0 < m')
    (ratio : Ratio k m e m' e') (least : -1074 ≤ k) (small : k ≤ 1023) :
    AtMostPower k (stored (UnpackedFloat.div Format.binary64 (.finite sign m e positive)
      (.finite sign' m' e' positive'))) := by
  obtain ⟨wide, fits⟩ := divided positive positive' ratio least
  exact (stored_round _ wide fits least small).1

theorem ratio_of_bounds (fits : Fits a m e) (reaches : Reaches b m' e') :
    Ratio (a - b) m e m' e' := by
  have below := fits.1
  calc
    m * 2 ^ (e - e' - (a - b)).toNat
        ≤ 2 ^ (a - e).toNat * 2 ^ (e - e' - (a - b)).toNat := Nat.mul_le_mul_right _ fits.2
    _ = 2 ^ ((a - e).toNat + (e - e' - (a - b)).toNat) := (Nat.pow_add ..).symm
    _ ≤ 2 ^ ((b - e').toNat + (a - b - (e - e')).toNat) :=
        Nat.pow_le_pow_right (by decide) (by omega)
    _ = 2 ^ (b - e').toNat * 2 ^ (a - b - (e - e')).toNat := Nat.pow_add ..
    _ ≤ m' * 2 ^ (a - b - (e - e')).toNat := Nat.mul_le_mul_right _ reaches

theorem within_div (within : Within a x) (beyond : Beyond b y) (least : -1074 ≤ a - b)
    (small : a - b ≤ 1023) : Within (a - b) (x / y) := by
  rw [Within, unpacked_div]
  rcases within_cases within with ⟨sign, zero⟩ | ⟨sign, m, e, positive, finite, -, fits⟩
  · rcases beyond_cases beyond with ⟨sign', infinite⟩ | ⟨sign', m', e', positive', finite', -⟩
    · rw [zero, infinite, UnpackedFloat.div, stored_zero]
      trivial
    · rw [zero, finite', UnpackedFloat.div, stored_zero]
      trivial
  · rcases beyond_cases beyond with
      ⟨sign', infinite⟩ | ⟨sign', m', e', positive', finite', -, reaches⟩
    · rw [finite, infinite, UnpackedFloat.div, stored_zero]
      trivial
    · rw [finite, finite']
      exact atMostPower_div sign sign' positive positive' (ratio_of_bounds fits reaches) least small

/-! ## Natural numbers -/

theorem toFloat_bounds {n power : Nat} (positive : 0 < n) (fast : n < 2 ^ 53) (bound : n ≤ 2 ^ power)
    (small : power ≤ 1023) :
    Within power n.toUInt64.toFloat ∧ Beyond 0 n.toUInt64.toFloat := by
  have same : n.toUInt64.toNat = n := UInt64.toNat_ofNat_of_lt' (Nat.lt_trans fast (by decide))
  have shown : unpacked n.toUInt64.toFloat =
      stored (UnpackedFloat.normalize Format.binary64 (n.toUInt64.toNat : Int) 0 .positive) := rfl
  have more : compare (n : Int) 0 = .gt := Int.compare_eq_gt.mpr (by omega)
  have fits : Fits power n 0 := ⟨by omega, by simpa using bound⟩
  rw [same, UnpackedFloat.normalize, more] at shown
  rw [Within, Beyond, shown]
  obtain ⟨above, below⟩ := stored_moved .positive positive fits (by omega) (by omega)
  exact ⟨above, below 0 (by decide) positive⟩

theorem ofNat_bounds {n power : Nat} (positive : 0 < n) (bound : n ≤ 2 ^ power)
    (small : power ≤ 1023) : Within power (Float.ofNat n) ∧ Beyond 0 (Float.ofNat n) := by
  show Within power (Float.ofScientific n false 0) ∧ Beyond 0 (Float.ofScientific n false 0)
  rw [Float.ofScientific]
  split
  · rename_i fast
    obtain ⟨above, below⟩ := toFloat_bounds positive fast.1 bound small
    have one : Within 0 (Float.ofBits 0x3FF0000000000000) := by decide
    have one' : Beyond 0 (Float.ofBits 0x3FF0000000000000) := by decide
    exact ⟨within_mul above one (by omega) (by omega),
      beyond_mul above one below one' (by decide) (by omega)⟩
  · have shown : unpacked (Float.ofModel (Float.Model.ofScientific n 0)) =
        stored (UnpackedFloat.ofScientific Format.binary64 n 0) := rfl
    have product : UnpackedFloat.ofScientific Format.binary64 n 0 =
        roundWithAccuracy Format.binary64 .positive (n * 2 ^ 53) (-53) .exact := by
      have range : (2 ^ Format.binary64.exponentBits : Int) = 2048 := rfl
      have one : 10 ^ Int.toNat 0 = 1 := rfl
      rw [UnpackedFloat.ofScientific, dif_neg (Nat.ne_of_gt positive), if_neg (by decide),
        if_neg (by omega), if_pos (by decide)]
      simp only [UnpackedFloat.mul, Nat.shiftLeft_eq, one, Nat.mul_one]
      rfl
    have wide : Wide (n * 2 ^ 53) (-53) := .inl (by omega)
    have fits : Fits power (n * 2 ^ 53) (-53) := by
      refine ⟨by omega, ?_⟩
      have sum : (power - (-53) : Int).toNat = power + 53 := by omega
      rw [sum, Nat.pow_add]
      exact Nat.mul_le_mul_right _ bound
    have reaches : Reaches 0 (n * 2 ^ 53) (-53) := by
      show 2 ^ 53 ≤ n * 2 ^ 53
      omega
    obtain ⟨above, below⟩ := stored_round .positive wide (fitsWith_exact fits) (by omega) (by omega)
    rw [← product, ← shown] at above below
    exact ⟨above, below 0 (by decide) reaches⟩

theorem within_ofNat {n power : Nat} (bound : n ≤ 2 ^ power) (small : power ≤ 1023) :
    Within power (Float.ofNat n) := by
  cases n with
  | zero => exact within_mono (a := 0) (by omega) (by decide)
  | succ n => exact (ofNat_bounds n.succ_pos bound small).1

end Accelerometer.Proofs.Double
