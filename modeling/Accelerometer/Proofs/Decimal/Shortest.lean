import Accelerometer.Proofs.Decimal.Nearest
import Accelerometer.Proofs.Double.Rounding

/-!
# The fewest digits of a double

The digits that are written for a double stand for a number between the middles of the gaps to its
neighbours, and seventeen digits are always enough for one.

* `Reads.either`: a number that is read as a given double, on one side of it or the other.
* `readsBack_iff`: the test on a decimal, as a statement about the number it stands for.
* `leadingPlace_le`: the place of the first digit is not too high.
* `shortest_reads`: there are digits, and they pass the test.
-/

namespace Accelerometer.Proofs.Decimal
open Accelerometer.Decimal Proofs.Double

variable {m count : ℕ} {e place : ℤ} {value : ℚ}

/-- How far the numbers that a double stands for reach below it, in its own units. The gap to the
next smaller double is half as wide where the exponent changes. -/
def reach (significand : ℕ) (exponent : ℤ) : ℚ :=
  if significand = hiddenBit ∧ exponent ≠ leastExponent then 1 / 4 else 1 / 2

/-- Numbers that no double is nearer to than `significand * 2 ^ exponent`. From the middle of a gap,
the neighbour with an even significand is taken. -/
structure Reads (significand : ℕ) (exponent : ℤ) (value : ℚ) : Prop where
  low : significand - reach significand exponent ≤ value / 2 ^ exponent
  high : value / 2 ^ exponent ≤ significand + 1 / 2
  even : value / 2 ^ exponent = significand - reach significand exponent ∨
    value / 2 ^ exponent = significand + 1 / 2 → Even significand

theorem reach_pos (m : ℕ) (e : ℤ) : 0 < reach m e := by
  unfold reach
  split <;> norm_num

theorem reach_le (m : ℕ) (e : ℤ) : reach m e ≤ 1 / 2 := by
  unfold reach
  split <;> norm_num

theorem Reads.lower (reads : Reads m e value) : (m - 1 / 2) * 2 ^ e ≤ value := by
  have scale : (0 : ℚ) < 2 ^ e := by positivity
  rw [← le_div_iff₀ scale]
  linarith [reads.low, reach_le m e]

theorem Reads.upper (reads : Reads m e value) : value ≤ (m + 1 / 2) * 2 ^ e := by
  have scale : (0 : ℚ) < 2 ^ e := by positivity
  rw [← div_le_iff₀ scale]
  exact reads.high

theorem Reads.pos (positive : 0 < m) (reads : Reads m e value) : 0 < value := by
  have least : (1 : ℚ) ≤ m := by exact_mod_cast positive
  have below : (0 : ℚ) < (m - 1 / 2) * 2 ^ e := mul_pos (by linarith) (by positivity)
  exact below.trans_le reads.lower

/-- Of two numbers on either side of a double, one is read as it if they are closer to each other than
the middles of the gaps to its neighbours. -/
theorem Reads.either {below above : ℚ} (low : below / 2 ^ e ≤ m) (high : m < above / 2 ^ e)
    (close : above / 2 ^ e - below / 2 ^ e < reach m e + 1 / 2) : Reads m e below ∨ Reads m e above := by
  have near := reach_pos m e
  by_cases inside : m - reach m e < below / 2 ^ e
  · left
    refine ⟨inside.le, by linarith, ?_⟩
    rintro (least | greatest)
    · exact absurd least inside.ne'
    · linarith
  · right
    have outside := not_lt.mp inside
    refine ⟨by linarith, by linarith, ?_⟩
    rintro (least | greatest)
    · linarith
    · linarith

/-! ## The test on a decimal -/

theorem compareGrid_eq (count : ℕ) (place : ℤ) (m : ℕ) (e : ℤ) :
    compareGrid count place m e = cmp ((count : ℚ) * 10 ^ place) (m * 2 ^ e) := by
  have two := powers_value 2 (by decide) e
  have ten := powers_value 10 (by decide) place
  rw [Nat.cast_ofNat] at two ten
  have tens : (0 : ℚ) < (Nat.pow 10 (-place).toNat : ℕ) := by
    exact_mod_cast Nat.pow_pos (by decide)
  have twos : (0 : ℚ) < (Nat.pow 2 (-e).toNat : ℕ) := by
    exact_mod_cast Nat.pow_pos (by decide)
  have cast : StrictMono (Nat.cast : ℕ → ℚ) := Nat.strictMono_cast
  rw [compareGrid, ← cmp_eq_compare, ← cast.cmp_map_eq, ← two, ← ten]
  refine Eq.trans ?_ (cmp_mul_pos_right (mul_pos tens twos) _ _)
  push_cast
  congr 1
  · field_simp
  · field_simp

theorem compareGrid_quarters {quarters : ℕ} {units : ℚ} (same : (quarters : ℚ) = 4 * units) :
    compareGrid count place quarters (e - 2) = cmp ((count : ℚ) * 10 ^ place / 2 ^ e) units := by
  have scale : (0 : ℚ) < 2 ^ e := by positivity
  have unit : (quarters : ℚ) * 2 ^ (e - 2) = units * 2 ^ e := by
    rw [same, zpow_sub₀ (by norm_num)]
    ring
  rw [compareGrid_eq, unit, ← cmp_mul_pos_right scale (_ / _), div_mul_cancel₀ _ scale.ne']

theorem readsBack_iff (positive : 0 < m) :
    readsBack m e count place = true ↔ Reads m e (count * 10 ^ place) := by
  have low : ((if m == hiddenBit && e != leastExponent then 4 * m - 1 else 4 * m - 2 : ℕ) : ℚ) =
      4 * (m - reach m e) := by
    simp only [Bool.and_eq_true, beq_iff_eq, bne_iff_ne, reach]
    split
    · rw [Nat.cast_sub (by omega)]
      push_cast
      ring
    · rw [Nat.cast_sub (by omega)]
      push_cast
      ring
  have high : ((4 * m + 2 : ℕ) : ℚ) = 4 * (m + 1 / 2) := by
    push_cast
    ring
  simp only [readsBack, compareGrid_quarters low, compareGrid_quarters high]
  generalize (count : ℚ) * 10 ^ place = value
  split
  · rename_i even
    simp only [Bool.and_eq_true, bne_iff_ne, ne_eq, cmp_eq_lt_iff, cmp_eq_gt_iff, not_lt]
    exact ⟨fun within => ⟨within.1, within.2, fun _ => Nat.even_iff.mpr (by simpa using even)⟩,
      fun reads => ⟨reads.low, reads.high⟩⟩
  · rename_i odd
    simp only [Bool.and_eq_true, beq_iff_eq, cmp_eq_lt_iff, cmp_eq_gt_iff]
    constructor
    · intro within
      refine ⟨within.1.le, within.2.le, ?_⟩
      rintro (low | high)
      · exact absurd low within.1.ne'
      · exact absurd high within.2.ne
    · intro reads
      have strict : ¬Even m := by
        rw [Nat.even_iff]
        simpa using odd
      refine ⟨lt_of_le_of_ne reads.low ?_, lt_of_le_of_ne reads.high ?_⟩
      · intro low
        exact strict (reads.even (.inl low.symm))
      · intro high
        exact strict (reads.even (.inr high))

/-! ## The first digit -/

/-- The logarithm of two is close enough to `0.30103` for the place of the first digit to be guessed
at most one too high. -/
theorem powers_of_ten : (∀ k < 1024, 10 ^ (k * 30103 / 100000) ≤ 10 * 2 ^ k) ∧
    ∀ k < 1075, 2 ^ k ≤ 10 ^ ((k * 30103 + 99999) / 100000) := by
  decide +kernel

theorem guess_le {k : ℤ} (least : -1074 ≤ k) (greatest : k ≤ 1023) :
    (10 : ℚ) ^ (k * 30103 / 100000 - 1) ≤ 2 ^ k := by
  obtain ⟨above, below⟩ := powers_of_ten
  rcases le_or_gt 0 k with nonneg | neg
  · obtain ⟨n, rfl⟩ := Int.eq_ofNat_of_zero_le nonneg
    have bound : ((10 : ℚ) ^ (n * 30103 / 100000)) ≤ 10 * 2 ^ n := by
      exact_mod_cast above n (by omega)
    have power : (n : ℤ) * 30103 / 100000 = ((n * 30103 / 100000 : ℕ) : ℤ) := by push_cast; rfl
    rw [power, zpow_sub_one₀ (by norm_num), zpow_natCast, zpow_natCast]
    linarith
  · obtain ⟨n, rfl⟩ := Int.exists_eq_neg_ofNat neg.le
    have bound : (2 : ℚ) ^ n ≤ 10 ^ ((n * 30103 + 99999) / 100000) := by
      exact_mod_cast below n (by omega)
    have power : -(n : ℤ) * 30103 / 100000 = -((n * 30103 + 99999) / 100000 : ℕ) := by omega
    rw [power]
    calc
      (10 : ℚ) ^ (-((n * 30103 + 99999) / 100000 : ℕ) - 1 : ℤ)
          ≤ 10 ^ (-((n * 30103 + 99999) / 100000 : ℕ) : ℤ) :=
        zpow_le_zpow_right₀ (by norm_num) (by omega)
      _ ≤ 2 ^ (-(n : ℤ)) := by
        rw [zpow_neg, zpow_neg, zpow_natCast, zpow_natCast]
        exact inv_anti₀ (by positivity) bound

theorem leadingPlace_le (positive : 0 < m) (canonical : Canonical m e) (greatest : e ≤ 971) :
    (10 : ℚ) ^ leadingPlace m e ≤ m * 2 ^ e := by
  have grid : ∀ place, compareGrid 1 place m e ≠ .gt → (10 : ℚ) ^ place ≤ m * 2 ^ e := by
    intro place fits
    rwa [compareGrid_eq, Nat.cast_one, one_mul, ne_eq, cmp_eq_gt_iff, not_lt] at fits
  simp only [leadingPlace]
  split
  · rename_i fits
    exact grid _ (by simpa using fits)
  · split
    · have least := canonical.exponent_ge
      have bits : m.log2 < 53 := (Nat.log2_lt positive.ne').mpr canonical.mantissa_lt
      have power : (2 : ℚ) ^ m.log2 ≤ m := by
        exact_mod_cast Nat.log2_self_le positive.ne'
      calc
        (10 : ℚ) ^ (((m.log2 : ℤ) + e) * 30103 / 100000 - 1) ≤ 2 ^ ((m.log2 : ℤ) + e) :=
          guess_le (by omega) (by omega)
        _ = 2 ^ m.log2 * 2 ^ e := by rw [zpow_add₀ (by norm_num), zpow_natCast]
        _ ≤ m * 2 ^ e := mul_le_mul_of_nonneg_right power (by positivity)
    · rename_i fits
      exact grid _ (by simpa using fits)

/-! ## Grid points -/

theorem roundDiv_cases (tie : Tie) (num den : ℕ) :
    roundDiv tie num den = num / den ∨ roundDiv tie num den = num / den + 1 := by
  simp only [roundDiv]
  generalize num / den = whole
  cases tie with
  | toEven =>
      split_ifs
      · exact .inl rfl
      · exact .inr rfl
      · change whole + whole % 2 = whole ∨ whole + whole % 2 = whole + 1
        omega
  | up =>
      split_ifs
      · exact .inl rfl
      · exact .inr rfl
      · exact .inr rfl

theorem gridPoint_reads {tie : Tie} (positive : 0 < m) (found : gridPoint? tie m e place = some count) :
    Reads m e (count * 10 ^ place) := by
  rw [← readsBack_iff positive]
  simp only [gridPoint?] at found
  split at found
  · rename_i lower upper
    obtain rfl := Option.some.inj found
    rcases roundDiv_cases tie (scaled m e (-place)).1 (scaled m e (-place)).2 with same | same
    · rwa [same]
    · rwa [same]
  · rename_i lower _
    obtain rfl := Option.some.inj found
    exact lower
  · rename_i _ upper
    obtain rfl := Option.some.inj found
    exact upper
  · cases found

/-- A grid that is finer than the numbers that a double stands for has a point among them. -/
theorem exists_gridPoint (tie : Tie) (positive : 0 < m)
    (fine : (10 : ℚ) ^ place / 2 ^ e < reach m e + 1 / 2) :
    ∃ count, gridPoint? tie m e place = some count := by
  have scale : (0 : ℚ) < 2 ^ e := by positivity
  have spacing : (0 : ℚ) < 10 ^ place := by positivity
  have fraction := scaled_value m e (-place)
  have denominator : (0 : ℚ) < (scaled m e (-place)).2 := by
    exact_mod_cast scaled_positive m e (-place)
  simp only [gridPoint?]
  generalize (scaled m e (-place)).1 = num at fraction ⊢
  generalize (scaled m e (-place)).2 = den at fraction denominator ⊢
  have low : ((num / den : ℕ) : ℚ) * 10 ^ place / 2 ^ e ≤ m := by
    rw [div_le_iff₀ scale, ← le_div_iff₀ spacing, div_eq_mul_inv, ← zpow_neg, ← fraction]
    exact Nat.cast_div_le
  have high : (m : ℚ) < ((num / den + 1 : ℕ) : ℚ) * 10 ^ place / 2 ^ e := by
    rw [lt_div_iff₀ scale, ← div_lt_iff₀ spacing, div_eq_mul_inv, ← zpow_neg, ← fraction,
      div_lt_iff₀ denominator]
    exact_mod_cast Nat.lt_mul_of_div_lt (Nat.lt_succ_self _) (by exact_mod_cast denominator)
  have step : ((num / den + 1 : ℕ) : ℚ) * 10 ^ place / 2 ^ e -
      ((num / den : ℕ) : ℚ) * 10 ^ place / 2 ^ e = 10 ^ place / 2 ^ e := by
    push_cast
    ring
  have found := Reads.either low high (step.trans_lt fine)
  rw [← readsBack_iff positive, ← readsBack_iff positive] at found
  split
  · exact ⟨_, rfl⟩
  · exact ⟨_, rfl⟩
  · exact ⟨_, rfl⟩
  · rename_i noLower noUpper
    rw [noLower, noUpper] at found
    simp at found

theorem shortest_reads (tie : Tie) (positive : 0 < m) (canonical : Canonical m e)
    (greatest : e ≤ 971) : ∃ count place, 0 < count ∧
      shortest tie m e = Digits.ofGrid count place ∧ Reads m e (count * 10 ^ place) := by
  have scale : (0 : ℚ) < 2 ^ e := by positivity
  have fine : (10 : ℚ) ^ (leadingPlace m e - 16) / 2 ^ e < reach m e + 1 / 2 := by
    have leading := leadingPlace_le positive canonical greatest
    have top := canonical.mantissa_lt
    rw [div_lt_iff₀ scale, zpow_sub₀ (by norm_num), div_lt_iff₀ (by norm_num)]
    refine leading.trans_lt ?_
    rw [mul_right_comm]
    refine mul_lt_mul_of_pos_right ?_ scale
    unfold reach
    split
    · rename_i narrow
      rw [narrow.1, hiddenBit]
      norm_num
    · norm_num
      omega
  obtain ⟨point, found⟩ := exists_gridPoint tie positive fine
  simp only [shortest]
  cases result : List.findSome? _ (List.range maxDigits) with
  | none =>
      rw [List.findSome?_eq_none_iff] at result
      have missing := result 16 (by decide)
      simp [found] at missing
  | some digits =>
      obtain ⟨more, -, given⟩ := List.exists_of_findSome?_eq_some result
      obtain ⟨count, chosen, rfl⟩ := Option.map_eq_some_iff.mp given
      have reads := gridPoint_reads positive chosen
      have some : (0 : ℚ) < count := by
        have := reads.pos positive
        exact (mul_pos_iff_of_pos_right (by positivity)).mp this
      exact ⟨count, _, by exact_mod_cast some, rfl, reads⟩

end Accelerometer.Proofs.Decimal
