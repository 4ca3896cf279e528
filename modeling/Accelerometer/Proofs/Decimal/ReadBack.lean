import Accelerometer.Proofs.Decimal.Notation
import Accelerometer.Proofs.Decimal.Positional
import Accelerometer.Proofs.Decimal.Shortest

/-!
# Decimals are read as the nearest double

* `exponentOf_bounds`: the exponent of the doubles around a fraction.
* `nearest_fraction`: a fraction among the numbers that a double stands for is read as that double.
* `nearest_decimal`: and so is a decimal.
* `positional_shortest`: the digits that are written for a double give it back.
-/

namespace Accelerometer.Proofs.Decimal
open Accelerometer.Decimal Proofs.Double

variable {m count num den : ℕ} {e place : ℤ} {value : ℚ} {negative : Bool}

theorem inUnits_value (num den : ℕ) (exponent : ℤ) :
    ((inUnits num den exponent).1 : ℚ) / (inUnits num den exponent).2 = num / den / 2 ^ exponent := by
  have two := powers_value 2 (by decide) exponent
  rw [Nat.cast_ofNat] at two
  rw [← two]
  simp only [inUnits]
  push_cast
  field_simp

theorem inUnits_positive (num : ℕ) (positive : 0 < den) (exponent : ℤ) :
    0 < (inUnits num den exponent).2 :=
  Nat.mul_pos positive (Nat.pow_pos (by decide))

theorem quotient_bounds (above : 0 < num) (positive : 0 < den) :
    2 ^ 52 * 2 ^ ((num.log2 : ℤ) - den.log2 - 53) ≤ (num / den : ℚ) ∧
      (num / den : ℚ) < 2 ^ 54 * 2 ^ ((num.log2 : ℤ) - den.log2 - 53) := by
  have denominator : (0 : ℚ) < den := by exact_mod_cast positive
  have numLow : (2 : ℚ) ^ (num.log2 : ℤ) ≤ num := by exact_mod_cast Nat.log2_self_le above.ne'
  have numHigh : (num : ℚ) < 2 ^ (num.log2 + 1 : ℤ) := by exact_mod_cast Nat.lt_log2_self
  have denLow : (2 : ℚ) ^ (den.log2 : ℤ) ≤ den := by exact_mod_cast Nat.log2_self_le positive.ne'
  have denHigh : (den : ℚ) < 2 ^ (den.log2 + 1 : ℤ) := by exact_mod_cast Nat.lt_log2_self
  have powers : ∀ a b : ℤ, (2 : ℚ) ^ a * 2 ^ b = 2 ^ (a + b) :=
    fun a b => (zpow_add₀ (by norm_num) a b).symm
  constructor
  · rw [le_div_iff₀ denominator]
    calc
      (2 : ℚ) ^ 52 * 2 ^ ((num.log2 : ℤ) - den.log2 - 53) * den
          ≤ 2 ^ (52 : ℤ) * 2 ^ ((num.log2 : ℤ) - den.log2 - 53) * 2 ^ (den.log2 + 1 : ℤ) :=
        mul_le_mul_of_nonneg_left denHigh.le (by positivity)
      _ = 2 ^ (num.log2 : ℤ) := by
        rw [powers, powers]
        congr 1
        ring
      _ ≤ num := numLow
  · rw [div_lt_iff₀ denominator]
    calc
      (num : ℚ) < 2 ^ (num.log2 + 1 : ℤ) := numHigh
      _ = 2 ^ (54 : ℤ) * 2 ^ ((num.log2 : ℤ) - den.log2 - 53) * 2 ^ (den.log2 : ℤ) := by
        rw [powers, powers]
        congr 1
        ring
      _ ≤ 2 ^ 54 * 2 ^ ((num.log2 : ℤ) - den.log2 - 53) * den :=
        mul_le_mul_of_nonneg_left denLow (by positivity)

theorem exponentOf_bounds (above : 0 < num) (positive : 0 < den) :
    leastExponent ≤ exponentOf num den ∧
      (num / den : ℚ) < 2 ^ 53 * 2 ^ exponentOf num den ∧
      (exponentOf num den = leastExponent ∨ 2 ^ 52 * 2 ^ exponentOf num den ≤ (num / den : ℚ)) := by
  obtain ⟨low, high⟩ := quotient_bounds above positive
  simp only [exponentOf, if_neg above.ne']
  generalize (num.log2 : ℤ) - den.log2 - 53 = guess at low high ⊢
  have one : (0 : ℚ) < (inUnits num den guess).2 := by exact_mod_cast inUnits_positive num positive guess
  have scale : (0 : ℚ) < 2 ^ guess := by positivity
  have fits : (inUnits num den guess).1 < 2 * hiddenBit * (inUnits num den guess).2 ↔
      (num / den : ℚ) < 2 ^ 53 * 2 ^ guess := by
    rw [← div_lt_iff₀ scale, ← inUnits_value, div_lt_iff₀ one, hiddenBit]
    norm_num
    exact_mod_cast Iff.rfl
  have bounds : ∀ exponent : ℤ, 2 ^ 52 * 2 ^ exponent ≤ (num / den : ℚ) →
      (num / den : ℚ) < 2 ^ 53 * 2 ^ exponent →
      leastExponent ≤ max leastExponent exponent ∧
        (num / den : ℚ) < 2 ^ 53 * 2 ^ max leastExponent exponent ∧
        (max leastExponent exponent = leastExponent ∨
          2 ^ 52 * 2 ^ max leastExponent exponent ≤ (num / den : ℚ)) := by
    intro exponent low high
    refine ⟨le_max_left _ _, high.trans_le ?_, ?_⟩
    · exact mul_le_mul_of_nonneg_left
        (zpow_le_zpow_right₀ (by norm_num) (le_max_right _ _)) (by positivity)
    · rcases le_total exponent leastExponent with less | more
      · exact .inl (max_eq_left less)
      · rw [max_eq_right more]
        exact .inr low
  split
  · rename_i less
    exact bounds guess low (fits.mp less)
  · rename_i more
    have reached := not_lt.mp (mt fits.mpr more)
    apply bounds (guess + 1)
    · rw [zpow_add_one₀ (by norm_num)]
      linarith
    · rw [zpow_add_one₀ (by norm_num)]
      linarith

/-! ## Fractions -/

theorem Reads.nearest (reads : Reads m e value) : IsNearest (value / 2 ^ e) m := by
  have near := reach_le m e
  have low := reads.low
  have high := reads.high
  constructor
  · rw [Int.cast_natCast, abs_le]
    constructor <;> linarith
  · intro half
    rw [Int.even_coe_nat]
    apply reads.even
    rw [Int.cast_natCast] at half
    rcases (abs_eq (by norm_num)).mp half with above | below
    · right
      linarith
    · left
      linarith

theorem exponentOf_le (canonical : Canonical m e) (above : 0 < num) (positive : 0 < den)
    (reads : Reads m e (num / den)) : exponentOf num den ≤ e := by
  obtain ⟨-, -, low⟩ := exponentOf_bounds above positive
  by_contra greater
  have scale : (0 : ℚ) < 2 ^ e := by positivity
  have notLeast : exponentOf num den ≠ leastExponent := by
    have : leastExponent ≤ e := canonical.exponent_ge
    omega
  have reached := low.resolve_left notLeast
  have far : (2 : ℚ) ^ (e + 1) ≤ 2 ^ exponentOf num den :=
    zpow_le_zpow_right₀ (by norm_num) (by omega)
  have small : (m : ℚ) + 1 ≤ 2 ^ 53 := by exact_mod_cast canonical.mantissa_lt
  have large : (m + 1 / 2) * 2 ^ e ≤ ((2 : ℚ) ^ 53 - 1 / 2) * 2 ^ e :=
    mul_le_mul_of_nonneg_right (by linarith) scale.le
  rw [zpow_add_one₀ (by norm_num)] at far
  norm_num at far reached large
  linarith [reads.upper]

theorem exponentOf_below (canonical : Canonical m e) (above : 0 < num) (positive : 0 < den)
    (reads : Reads m e (num / den)) (less : exponentOf num den < e) :
    exponentOf num den = e - 1 ∧ m = hiddenBit ∧ e ≠ leastExponent := by
  obtain ⟨least, high, -⟩ := exponentOf_bounds above positive
  have scale : (0 : ℚ) < 2 ^ e := by positivity
  have notLeast : e ≠ leastExponent := by omega
  have full : hiddenBit ≤ m := canonical.full.resolve_right notLeast
  -- a significand that is large enough puts the number above all doubles of the smaller exponent
  have bound : ∀ significand : ℚ, significand ≤ m →
      (significand - 1 / 2) * 2 ^ e < 2 ^ 53 * 2 ^ exponentOf num den := by
    intro significand most
    have : (significand - 1 / 2) * 2 ^ e ≤ (m - 1 / 2) * 2 ^ e :=
      mul_le_mul_of_nonneg_right (by linarith) scale.le
    exact (this.trans reads.lower).trans_lt high
  have exponent : exponentOf num den = e - 1 := by
    by_contra other
    have far : (2 : ℚ) ^ exponentOf num den ≤ 2 ^ (e - 2) :=
      zpow_le_zpow_right₀ (by norm_num) (by omega)
    have large := bound (2 ^ 52) (by exact_mod_cast full)
    rw [zpow_sub₀ (by norm_num)] at far
    norm_num at far large
    linarith
  refine ⟨exponent, le_antisymm ?_ full, notLeast⟩
  by_contra more
  have large := bound (2 ^ 52 + 1) (by exact_mod_cast not_le.mp more)
  rw [exponent, zpow_sub_one₀ (by norm_num)] at large
  norm_num at large
  linarith

/-- Below the least double of an exponent, the doubles are closer to each other. -/
theorem Reads.nearest_below (reads : Reads hiddenBit e value) (notLeast : e ≠ leastExponent)
    (below : value < 2 ^ 53 * 2 ^ (e - 1)) : IsNearest (value / 2 ^ (e - 1)) (2 ^ 53) := by
  have scale : (0 : ℚ) < 2 ^ e := by positivity
  have half : (2 : ℚ) ^ (e - 1) = 2 ^ e / 2 := by
    rw [zpow_sub_one₀ (by norm_num), div_eq_mul_inv]
  have double : value / (2 ^ e / 2) = 2 * (value / 2 ^ e) := by
    field_simp
  have low := reads.low
  rw [reach, if_pos ⟨rfl, notLeast⟩, hiddenBit] at low
  have high : value / 2 ^ e < 2 ^ 52 := by
    rw [half] at below
    rw [div_lt_iff₀ scale]
    linarith
  rw [half, double]
  refine ⟨?_, fun _ => by decide⟩
  rw [abs_le]
  push_cast at low ⊢
  constructor <;> linarith

theorem exponentOf_reads (canonical : Canonical m e) (above : 0 < num) (positive : 0 < den)
    (reads : Reads m e (num / den)) :
    exponentOf num den = e ∨
      exponentOf num den = e - 1 ∧ m = hiddenBit ∧ IsNearest (num / den / 2 ^ (e - 1)) (2 ^ 53) := by
  rcases (exponentOf_le canonical above positive reads).eq_or_lt with equal | less
  · exact .inl equal
  · obtain ⟨exponent, rfl, notLeast⟩ := exponentOf_below canonical above positive reads less
    obtain ⟨-, high, -⟩ := exponentOf_bounds above positive
    rw [exponent] at high
    exact .inr ⟨exponent, rfl, reads.nearest_below notLeast high⟩

theorem nearest_fraction (canonical : Canonical m e) (greatest : e ≤ 971) (above : 0 < num)
    (positive : 0 < den) (reads : Reads m e (num / den)) :
    Binary.nearest negative num den = .finite negative m e := by
  have rounded := isNearest_roundDiv (inUnits num den (exponentOf num den)).1
    (inUnits_positive num positive (exponentOf num den))
  have inRange : ¬exponentBound ≤ e := by
    rw [exponentBound]
    omega
  have hidden : hiddenBit = 2 ^ 52 := rfl
  rw [inUnits_value] at rounded
  simp only [Binary.nearest]
  rcases exponentOf_reads canonical above positive reads with same | ⟨below, first, last⟩
  · rw [same] at rounded ⊢
    have noCarry : m ≠ 2 * hiddenBit := by
      have := canonical.mantissa_lt
      omega
    rw [Int.ofNat_inj.mp (rounded.unique reads.nearest), if_neg noCarry, if_neg inRange]
  · rw [below] at rounded ⊢
    have carry : ((2 : ℤ) ^ 53) = ((2 * hiddenBit : ℕ) : ℤ) := rfl
    rw [carry] at last
    rw [Int.ofNat_inj.mp (rounded.unique last), if_pos rfl, Int.sub_add_cancel, if_neg inRange, first]

/-! ## Decimals -/

theorem toDigits_bounds (above : 0 < count) :
    ∃ more, (Nat.toDigits 10 count).length = more + 1 ∧ 10 ^ more ≤ count ∧ count < 10 ^ (more + 1) := by
  obtain ⟨more, length⟩ := Nat.exists_eq_add_one.mpr (Nat.length_toDigits_pos (b := 10) (n := count))
  refine ⟨more, length, ?_, (Nat.length_toDigits_le_iff (by decide) (Nat.succ_pos more)).mp length.le⟩
  rcases Nat.eq_zero_or_pos more with rfl | some
  · exact above
  · refine Nat.not_lt.mp fun less => ?_
    have := (Nat.length_toDigits_le_iff (by decide) some).mpr less
    omega

theorem decimal_bounds (above : 0 < count) (place : ℤ) :
    (10 : ℚ) ^ (place + (Nat.toDigits 10 count).length - 1) ≤ count * 10 ^ place ∧
      (count * 10 ^ place : ℚ) < 10 ^ (place + (Nat.toDigits 10 count).length) := by
  obtain ⟨more, length, low, high⟩ := toDigits_bounds above
  have scale : (0 : ℚ) < 10 ^ place := by positivity
  rw [length]
  constructor
  · calc
      (10 : ℚ) ^ (place + (more + 1 : ℕ) - 1) = 10 ^ ((more : ℤ) + place) := by
        congr 1
        push_cast
        ring
      _ = 10 ^ more * 10 ^ place := by rw [zpow_add₀ (by norm_num), zpow_natCast]
      _ ≤ count * 10 ^ place := mul_le_mul_of_nonneg_right (by exact_mod_cast low) scale.le
  · calc
      (count * 10 ^ place : ℚ) < 10 ^ (more + 1) * 10 ^ place :=
        mul_lt_mul_of_pos_right (by exact_mod_cast high) scale
      _ = 10 ^ (place + (more + 1 : ℕ)) := by
        rw [zpow_add₀ (by norm_num), zpow_natCast, mul_comm]

theorem Reads.bounds (canonical : Canonical m e) (greatest : e ≤ 971) (positive : 0 < m)
    (reads : Reads m e value) : (2 : ℚ) ^ (-1075 : ℤ) ≤ value ∧ value ≤ 2 ^ 1024 := by
  have scale : (0 : ℚ) < 2 ^ e := by positivity
  constructor
  · have least : (1 : ℚ) ≤ m := by exact_mod_cast positive
    calc
      (2 : ℚ) ^ (-1075 : ℤ) ≤ 2 ^ (e - 1) :=
        zpow_le_zpow_right₀ (by norm_num) (by have := canonical.exponent_ge; omega)
      _ = 1 / 2 * 2 ^ e := by
        rw [zpow_sub_one₀ (by norm_num)]
        ring
      _ ≤ (m - 1 / 2) * 2 ^ e := mul_le_mul_of_nonneg_right (by linarith) scale.le
      _ ≤ value := reads.lower
  · have small : (m : ℚ) + 1 ≤ 2 ^ 53 := by exact_mod_cast canonical.mantissa_lt
    calc
      value ≤ (m + 1 / 2) * 2 ^ e := reads.upper
      _ ≤ 2 ^ (53 : ℤ) * 2 ^ (971 : ℤ) :=
        mul_le_mul (by norm_num at small ⊢; linarith) (zpow_le_zpow_right₀ (by norm_num) greatest)
          scale.le (by positivity)
      _ = 2 ^ 1024 := by
        rw [← zpow_add₀ (by norm_num)]
        rfl

theorem sizes : 2 ^ 1075 < 10 ^ 401 ∧ 2 ^ 1024 < 10 ^ 400 := by
  decide +kernel

theorem Reads.computed (canonical : Canonical m e) (greatest : e ≤ 971) (positive : 0 < m)
    (above : 0 < count) (reads : Reads m e (count * 10 ^ place)) :
    -400 ≤ place + ((Nat.toDigits 10 count).length : ℤ) ∧
      place + ((Nat.toDigits 10 count).length : ℤ) ≤ 400 := by
  obtain ⟨low, high⟩ := decimal_bounds above place
  obtain ⟨least, most⟩ := reads.bounds canonical greatest positive
  have ten : (1 : ℚ) < 10 := by norm_num
  constructor
  · have tiny : (10 : ℚ) ^ (-401 : ℤ) < 2 ^ (-1075 : ℤ) := by
      rw [zpow_neg, zpow_neg, zpow_ofNat, zpow_ofNat]
      exact inv_strictAnti₀ (by positivity) (by exact_mod_cast sizes.1)
    have := (zpow_lt_zpow_iff_right₀ ten).mp ((tiny.trans_le least).trans high)
    omega
  · have huge : (2 : ℚ) ^ 1024 < 10 ^ (400 : ℤ) := by
      rw [zpow_ofNat]
      exact_mod_cast sizes.2
    have := (zpow_lt_zpow_iff_right₀ ten).mp ((low.trans most).trans_lt huge)
    omega

theorem nearest_decimal (canonical : Canonical m e) (greatest : e ≤ 971) (positive : 0 < m)
    (above : 0 < count) (reads : Reads m e (count * 10 ^ place)) :
    nearest negative count place = .finite negative m e := by
  obtain ⟨notTiny, notHuge⟩ := reads.computed canonical greatest positive above
  have ten := powers_value 10 (by decide) place
  rw [Nat.cast_ofNat] at ten
  rw [← ten, ← mul_div_assoc, ← Nat.cast_mul] at reads
  have computed : ¬(count = 0 ∨ place + ((Nat.toDigits 10 count).length : ℤ) < -400) := by
    rintro (zero | tiny)
    · exact above.ne' zero
    · exact absurd notTiny (not_le.mpr tiny)
  rw [nearest, if_neg computed, if_neg (not_lt.mpr notHuge)]
  exact nearest_fraction canonical greatest (Nat.mul_pos above (Nat.pow_pos (by decide)))
    (Nat.pow_pos (by decide)) reads

/-- The fewest digits of a double, written out in full, are read as that double. -/
theorem positional_shortest (tie : Tie) (canonical : Canonical m e) (greatest : e ≤ 971)
    (positive : 0 < m) : ∃ whole fraction,
      positionalText true (shortest tie m e) = whole ++ '.' :: fraction ∧ IsDecimal whole fraction ∧
      ∀ negative, nearest negative (ofDigits (whole ++ fraction)) (-(fraction.length : ℤ)) =
        .finite negative m e := by
  obtain ⟨count, place, above, digits, reads⟩ := shortest_reads tie positive canonical greatest
  obtain ⟨whole, fraction, written, isDecimal, value⟩ :=
    positionalText_parts (fun c => mem_shortest) (digits ▸ ofGrid_head above place)
  refine ⟨whole, fraction, written, isDecimal, fun negative => ?_⟩
  rw [digits, ofGrid_value] at value
  rw [← value] at reads
  have some : 0 < ofDigits (whole ++ fraction) := by
    have := reads.pos positive
    exact_mod_cast (mul_pos_iff_of_pos_right (by positivity)).mp this
  exact nearest_decimal canonical greatest positive some reads

end Accelerometer.Proofs.Decimal
