import Accelerometer.Proofs.Double.Rounding

/-!
# Doubles as bits

What a double is made of comes back from its bits.

* `unpack_canonical`: the finite doubles are canonical.
* `unpack_pack_finite`: a canonical number is found again in its bits if its exponent is not too large.
-/

namespace Accelerometer.Proofs.Double
open Float.Model.UnpackedFloat
open Float.Model (Format UnpackedFloat)

variable {spec : Format} {sign : Sign} {mantissa : Nat} {exponent : Int} {positive : 0 < mantissa}

theorem toNat_leadingOne (mantissa : BitVec 52) :
    (1#1 ++ mantissa).toNat = 2 ^ 52 + mantissa.toNat := by
  rw [BitVec.toNat_append, ← Nat.shiftLeft_add_eq_or_of_lt mantissa.isLt]
  rfl

theorem exponentBias_eq : Format.binary64.exponentBias = 1023 := rfl

theorem unpack_canonical {bits : BitVec Format.binary64.numBits}
    (finite : UnpackedFloat.unpack Format.binary64 bits = .finite sign mantissa exponent positive) :
    Canonical mantissa exponent ∧ exponent ≤ 971 := by
  have size : (unpackMantissa bits).toNat < 2 ^ 52 := (unpackMantissa bits).isLt
  have range : (unpackExponent bits).toNat < 2 ^ 11 := (unpackExponent bits).isLt
  simp only [UnpackedFloat.unpack] at finite
  split at finite
  · split at finite <;> cases finite
  · rename_i notLast
    split at finite
    · rename_i first
      split at finite
      · cases finite
      · cases finite
        rw [first, exponentBias_eq]
        exact ⟨⟨by omega, by decide, .inr (by decide)⟩, by decide⟩
    · rename_i notFirst
      cases finite
      have notZero : (unpackExponent bits).toNat ≠ 0 := by
        intro zero
        exact notFirst (BitVec.eq_of_toNat_eq zero)
      have notMax : (unpackExponent bits).toNat ≠ 2047 := by
        intro max
        exact notLast (BitVec.eq_of_toNat_eq max)
      rw [toNat_leadingOne, exponentBias_eq]
      exact ⟨⟨by omega, by omega, .inl (by omega)⟩, by omega⟩

theorem unpack_pack_finite (canonical : Canonical mantissa exponent) (small : exponent ≤ 971) :
    UnpackedFloat.unpack Format.binary64
      (UnpackedFloat.pack Format.binary64 (.finite sign mantissa exponent positive)) =
      .finite sign mantissa exponent positive := by
  obtain ⟨size, least, full⟩ := canonical
  have bits : mantissa.log2 + 1 = 53 ↔ 2 ^ 52 ≤ mantissa := by
    have nonzero := Nat.ne_of_gt positive
    have upper := (Nat.log2_lt nonzero).mpr size
    have lower := Nat.le_log2 nonzero (k := 52)
    omega
  have biased : (exponent + (1023 : Nat) + (52 : Nat)).toNat + 1 < 2 ^ 11 := by omega
  have width : Format.binary64.mantissaBits = 53 := rfl
  simp only [UnpackedFloat.pack, exponentBias_eq, width, if_neg (Nat.not_le.mpr biased), bits]
  by_cases normal : 2 ^ 52 ≤ mantissa
  · have exact : (BitVec.ofNat 11 (exponent + (1023 : Nat) + (52 : Nat)).toNat).toNat =
        (exponent + (1023 : Nat) + (52 : Nat)).toNat := by
      rw [BitVec.toNat_ofNat, Nat.mod_eq_of_lt (by omega)]
    have notLast : BitVec.ofNat 11 (exponent + (1023 : Nat) + (52 : Nat)).toNat ≠ -1#11 := by
      intro last
      have same : _ = 2047 := congrArg BitVec.toNat last
      omega
    have notFirst : BitVec.ofNat 11 (exponent + (1023 : Nat) + (52 : Nat)).toNat ≠ 0#11 := by
      intro first
      have same : _ = 0 := congrArg BitVec.toNat first
      omega
    have whole : (1#1 ++ BitVec.ofNat 52 mantissa).toNat = mantissa := by
      rw [toNat_leadingOne, BitVec.toNat_ofNat]
      omega
    have same : ((exponent + (1023 : Nat) + (52 : Nat)).toNat : Int) - ((1023 : Nat) + (52 : Nat)) =
        exponent := by omega
    rw [if_pos normal]
    simp only [UnpackedFloat.unpack, unpackExponent_packComponents, unpackMantissa_packComponents,
      unpackSign_packComponents, Sign.ofBitVec_toBitVec, exponentBias_eq, if_neg notLast,
      if_neg notFirst, whole, exact, same]
  · have low : exponent = -1074 := full.resolve_left normal
    have tail : (BitVec.ofNat 52 mantissa).toNat = mantissa := by
      rw [BitVec.toNat_ofNat, Nat.mod_eq_of_lt (by omega)]
    have nonzero : BitVec.ofNat 52 mantissa ≠ 0#52 := by
      intro zero
      have same : _ = 0 := congrArg BitVec.toNat zero
      omega
    have notLast : 0#11 ≠ -1#11 := by decide
    subst low
    rw [if_neg normal]
    simp only [UnpackedFloat.unpack, unpackExponent_packComponents, unpackMantissa_packComponents,
      unpackSign_packComponents, Sign.ofBitVec_toBitVec, exponentBias_eq, if_neg notLast, if_true,
      dif_neg nonzero, tail]
    rfl

end Accelerometer.Proofs.Double
