import Accelerometer.Decimal.Binary
import Accelerometer.Proofs.Decimal.Nearest
import Accelerometer.Proofs.Double.Comparison

/-!
# The numbers that doubles stand for

Every finite double stands for a rational number. The number that its bits are taken for is the one that
arithmetic computes with, and the bits are found again from it.

* `ofFloat_eq`: a double taken apart.
* `toFloat_ofFloat`: and put together again.
* `value_mono`: positive doubles are compared as their values are.
-/

namespace Accelerometer.Proofs.Double
open Float.Model.UnpackedFloat
open Float.Model (Format UnpackedFloat)
open Accelerometer.Decimal

variable {sign sign' : Sign} {m m' : Nat} {e e' : Int} {x y : Float}

def isNegative : Sign → Bool
  | .positive => false
  | .negative => true

def binaryOf : UnpackedFloat → Binary
  | .notANumber => .nan
  | .infinity sign => .infinite (isNegative sign)
  | .zero sign => .finite (isNegative sign) 0 leastExponent
  | .finite sign mantissa exponent _ => .finite (isNegative sign) mantissa exponent

def ratio? : UnpackedFloat → Option ℚ
  | .zero _ => some 0
  | .finite sign mantissa exponent _ => some (sign.apply mantissa * 2 ^ exponent)
  | _ => none

def valueOf? (x : Float) : Option ℚ :=
  ratio? (unpacked x)

/-! ## Bits -/

theorem unpackSign_eq (bits : BitVec Format.binary64.numBits) :
    isNegative (Sign.ofBitVec (unpackSign bits)) = (bits.toNat / Nat.pow 2 63 % 2 == 1) := by
  have bit : (unpackSign bits).toNat = bits.toNat / Nat.pow 2 63 % 2 := by
    simp [unpackSign, Nat.shiftRight_eq_div_pow]
  rw [← bit]
  generalize unpackSign bits = sign
  revert sign
  decide

theorem ofBits_eq (bits : BitVec Format.binary64.numBits) :
    Binary.ofBits bits.toNat = binaryOf (UnpackedFloat.unpack Format.binary64 bits) := by
  have mantissa : (unpackMantissa bits).toNat = bits.toNat % hiddenBit := by
    simp [unpackMantissa, hiddenBit]
  have exponent : (unpackExponent bits).toNat = bits.toNat / hiddenBit % 2048 := by
    simp [unpackExponent, Nat.shiftRight_eq_div_pow, hiddenBit]
  have negative := unpackSign_eq bits
  have last : unpackExponent bits = -1#11 ↔ ((unpackExponent bits).toNat == 2047) = true := by
    rw [beq_iff_eq]
    exact BitVec.toNat_inj.symm
  have first : unpackExponent bits = 0#11 ↔ ((unpackExponent bits).toNat == 0) = true := by
    rw [beq_iff_eq]
    exact BitVec.toNat_inj.symm
  have empty : unpackMantissa bits = 0#52 ↔ ((unpackMantissa bits).toNat == 0) = true := by
    rw [beq_iff_eq]
    exact BitVec.toNat_inj.symm
  simp only [Binary.ofBits, UnpackedFloat.unpack, ← exponent, ← mantissa, toNat_leadingOne,
    exponentBias_eq]
  by_cases max : unpackExponent bits = -1#11
  · rw [if_pos max, if_pos (last.mp max)]
    by_cases zero : unpackMantissa bits = 0#52
    · rw [if_pos zero, if_pos (empty.mp zero), binaryOf, negative]
    · rw [if_neg zero, if_neg (mt empty.mpr zero), binaryOf]
  · rw [if_neg max, if_neg (mt last.mpr max)]
    by_cases low : unpackExponent bits = 0#11
    · rw [if_pos low, if_pos (first.mp low)]
      by_cases zero : unpackMantissa bits = 0#52
      · rw [dif_pos zero, binaryOf, negative, zero]
        rfl
      · rw [dif_neg zero, binaryOf, negative, low]
        rfl
    · rw [if_neg low, if_neg (mt first.mpr low), binaryOf, negative]
      rfl

theorem ofFloat_eq (x : Float) : Binary.ofFloat x = binaryOf (unpacked x) :=
  ofBits_eq x.toBits.toBitVec

theorem binaryOf_ne_nan {parts : UnpackedFloat} (number : parts ≠ .notANumber) :
    binaryOf parts ≠ .nan := by
  cases parts with
  | notANumber => exact absurd rfl number
  | infinity sign => exact nofun
  | zero sign => exact nofun
  | finite sign m e positive => exact nofun

theorem toBits_ofBits {bits : Nat} (bound : bits < 2 ^ 64) (number : Binary.ofBits bits ≠ .nan) :
    (Binary.ofBits bits).toBits = bits := by
  have hidden : hiddenBit = 4503599627370496 := rfl
  have top : Nat.pow 2 63 = 9223372036854775808 := rfl
  have signed : ∀ magnitude, bits = bits / 9223372036854775808 % 2 * 9223372036854775808 + magnitude →
      (if bits / 9223372036854775808 % 2 == 1 then 9223372036854775808 + magnitude else magnitude) =
        bits := by
    intro magnitude split
    rcases Nat.mod_two_eq_zero_or_one (bits / 9223372036854775808) with zero | one
    · rw [zero] at split ⊢
      simpa using split.symm
    · rw [one] at split ⊢
      simpa using split.symm
  simp only [Binary.ofBits, hidden, top, beq_iff_eq] at number ⊢
  split
  · rename_i last
    rw [if_pos last] at number
    split
    · rename_i zero
      simp only [Binary.toBits, hidden, top]
      apply signed
      omega
    · rename_i nonzero
      rw [if_neg nonzero] at number
      exact absurd rfl number
  · split
    · rename_i low
      simp only [Binary.toBits, hidden, top, leastExponent, sub_self, Int.toNat_zero, zero_mul, zero_add]
      apply signed
      omega
    · rename_i notLast notLow
      have steps : (Int.ofNat (bits / 4503599627370496 % 2048) - 1075 - -1074).toNat =
          bits / 4503599627370496 % 2048 - 1 := by
        simp only [Int.ofNat_eq_natCast]
        omega
      simp only [Binary.toBits, hidden, top, leastExponent, steps]
      apply signed
      omega

theorem unpack_injective {bits bits' : BitVec Format.binary64.numBits}
    (number : UnpackedFloat.unpack Format.binary64 bits ≠ .notANumber)
    (same : UnpackedFloat.unpack Format.binary64 bits = UnpackedFloat.unpack Format.binary64 bits') :
    bits = bits' := by
  apply BitVec.eq_of_toNat_eq
  have stands : Binary.ofBits bits.toNat ≠ .nan := by
    rw [ofBits_eq]
    exact binaryOf_ne_nan number
  have equal : Binary.ofBits bits.toNat = Binary.ofBits bits'.toNat := by
    rw [ofBits_eq, ofBits_eq, same]
  rw [← toBits_ofBits bits.isLt stands, equal]
  exact toBits_ofBits bits'.isLt (equal ▸ stands)

theorem stored_unpacked (x : Float) : stored (unpacked x) = unpacked x := by
  cases found : unpacked x with
  | notANumber => rfl
  | infinity sign => exact stored_infinity sign
  | zero sign => exact stored_zero sign
  | finite sign m e positive =>
      obtain ⟨canonical, small⟩ := unpacked_canonical found
      exact unpack_pack_finite canonical small

theorem ofBits_toBits (number : unpacked x ≠ .notANumber) : Float.ofBits x.toBits = x := by
  have same : (UnpackedFloat.pack Format.binary64 (unpacked x)) = x.toBits.toBitVec :=
    (unpack_injective number (stored_unpacked x).symm).symm
  obtain ⟨⟨⟨bits⟩, valid⟩⟩ := x
  simp only [Float.ofBits, Float.Model.ofBits, Float.toBits, Float.Model.pack] at same ⊢
  congr

theorem toFloat_ofFloat (number : unpacked x ≠ .notANumber) : (Binary.ofFloat x).toFloat = x := by
  have stands : Binary.ofFloat x ≠ .nan := by
    rw [ofFloat_eq]
    exact binaryOf_ne_nan number
  have bits := toBits_ofBits x.toBits.toNat_lt stands
  rw [Binary.toFloat, Binary.ofFloat, bits, UInt64.ofNat_toNat, ofBits_toBits number]

/-! ## Order -/

theorem le_iff : x ≤ y ↔ (unpacked x).le (unpacked y) = true :=
  decide_eq_true_iff

theorem le_of_ratio (ratio : Ratio 0 m e m' e') : (m : ℚ) * 2 ^ e ≤ m' * 2 ^ e' := by
  have power := Decimal.powers_value 2 (by decide) (e - e')
  have positive : (0 : ℚ) < (Nat.pow 2 (-(e - e')).toNat : ℕ) := by
    exact_mod_cast Nat.two_pow_pos _
  rw [Ratio, Int.sub_zero, Int.zero_sub] at ratio
  have scaled : (m : ℚ) * 2 ^ (e - e') ≤ m' := by
    rw [Nat.cast_ofNat] at power
    rw [← power, ← mul_div_assoc, div_le_iff₀ positive]
    exact_mod_cast ratio
  calc
    (m : ℚ) * 2 ^ e = m * 2 ^ (e - e') * 2 ^ e' := by
      rw [mul_assoc, ← zpow_add₀ (by norm_num), Int.sub_add_cancel]
    _ ≤ m' * 2 ^ e' := mul_le_mul_of_nonneg_right scaled (by positivity)

theorem value_mono {value value' : ℚ} (less : x ≤ y) (first : valueOf? x = some value)
    (second : valueOf? y = some value') (above : 0 < value) : value ≤ value' := by
  rw [le_iff] at less
  unfold valueOf? at first second
  cases found : unpacked x with
  | notANumber =>
      rw [found] at first
      cases first
  | infinity sign =>
      rw [found] at first
      cases first
  | zero sign =>
      rw [found] at first
      cases first
      exact absurd above (lt_irrefl 0)
  | finite sign m e positive =>
      rw [found] at first less
      obtain rfl := Option.some.inj first
      cases sign with
      | negative =>
          have below : ((Sign.negative.apply m : ℤ) : ℚ) * 2 ^ e ≤ 0 := by
            simp only [Sign.apply]
            push_cast
            rw [neg_mul, Left.neg_nonpos_iff]
            positivity
          exact absurd above (not_lt.mpr below)
      | positive =>
          cases found' : unpacked y with
          | notANumber =>
              rw [found'] at second
              cases second
          | infinity sign' =>
              rw [found'] at second
              cases second
          | zero sign' =>
              rw [found'] at less
              cases less
          | finite sign' m' e' positive' =>
              rw [found'] at second less
              obtain rfl := Option.some.inj second
              cases sign' with
              | negative => cases less
              | positive =>
                  exact le_of_ratio
                    (ratio_of_le (unpacked_canonical found).1 (unpacked_canonical found').1 less)

end Accelerometer.Proofs.Double
