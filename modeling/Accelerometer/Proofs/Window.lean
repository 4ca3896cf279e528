import Accelerometer.Proofs.Double.Value
import Accelerometer.Window

/-!
# Windows, exactly

A window has the number of nanoseconds that is nearest to its number of seconds.

* `isNearest_fixedCount`: the number of nanoseconds.
* `windowOf_eq_ok`: which numbers of seconds are accepted.
* `nearest_split`: whole seconds and the rest of a window.
* `window_exact`: both, and more seconds give no shorter window.
-/

namespace Accelerometer.Proofs.Window
open Float.Model (UnpackedFloat)
open Float.Model.UnpackedFloat (Sign)
open Proofs.Decimal Proofs.Double

variable {seconds : Float} {window : ℕ} {value : ℚ} {significand : Nat} {exponent : ℤ}
  {negative : Bool}

theorem isNearest_fixedCount (significand : Nat) (exponent : ℤ) (places : Nat) :
    IsNearest (significand * 2 ^ exponent * 10 ^ places)
      (Decimal.fixedCount significand exponent places : ℕ) := by
  have value := scaled_value significand exponent places
  rw [zpow_natCast] at value
  rw [← value]
  exact isNearest_roundDiv _ (scaled_positive significand exponent places)

theorem isNearest_self (count : ℤ) : IsNearest count count := by
  constructor
  · norm_num
  · norm_num

/-! ## Accepted numbers -/

theorem windowOf_finite (parts : Decimal.Binary.ofFloat seconds = .finite negative significand exponent)
    (notNegative : negative = true → significand = 0) :
    windowOf seconds = .ok window ↔ window = Decimal.fixedCount significand exponent 9 ∧
      1 ≤ window ∧ window < 2 ^ 64 * 10 ^ 9 := by
  have bound : durationBound = 2 ^ 64 * 10 ^ 9 := rfl
  have accepted : ¬(negative = true ∧ significand ≠ 0) :=
    fun both => both.2 (notNegative both.1)
  simp only [windowOf, parts, accepted, if_false, bound]
  generalize Decimal.fixedCount significand exponent 9 = nanoseconds
  split
  · rename_i zero
    constructor
    · exact nofun
    · rintro ⟨rfl, positive, -⟩
      omega
  · split
    · rename_i large
      constructor
      · exact nofun
      · rintro ⟨rfl, -, small⟩
        exact absurd large (Nat.not_le.mpr small)
    · rename_i nonzero small
      rw [Except.ok.injEq]
      constructor
      · rintro rfl
        exact ⟨rfl, Nat.pos_of_ne_zero nonzero, Nat.lt_of_not_le small⟩
      · rintro ⟨rfl, -⟩
        rfl

theorem nearest_window
    (nearest : IsNearest (value * 10 ^ 9) (Decimal.fixedCount significand exponent 9 : ℕ))
    (least : 0 ≤ value) :
    (window = Decimal.fixedCount significand exponent 9 ∧ 1 ≤ window ∧ window < 2 ^ 64 * 10 ^ 9) ↔
      0 ≤ value ∧ IsNearest (value * 10 ^ 9) window ∧ 1 ≤ window ∧ window < 2 ^ 64 * 10 ^ 9 := by
  constructor
  · rintro ⟨rfl, inRange⟩
    exact ⟨least, nearest, inRange⟩
  · rintro ⟨-, same, inRange⟩
    exact ⟨by exact_mod_cast same.unique nearest, inRange⟩

theorem windowOf_eq_ok (seconds : Float) (window : ℕ) :
    windowOf seconds = .ok window ↔ ∃ value, valueOf? seconds = some value ∧ 0 ≤ value ∧
      IsNearest (value * 10 ^ 9) window ∧ 1 ≤ window ∧ window < 2 ^ 64 * 10 ^ 9 := by
  have parts := ofFloat_eq seconds
  unfold valueOf?
  cases found : unpacked seconds with
  | notANumber =>
      rw [found] at parts
      simp [windowOf, parts, binaryOf, ratio?]
  | infinity sign =>
      rw [found] at parts
      cases sign <;> simp [windowOf, parts, binaryOf, isNegative, ratio?]
  | zero sign =>
      rw [found] at parts
      have nearest := isNearest_fixedCount 0 Decimal.leastExponent 9
      rw [Nat.cast_zero, zero_mul] at nearest
      rw [windowOf_finite parts fun _ => rfl, nearest_window nearest le_rfl]
      simp [ratio?]
  | finite sign m e positive =>
      rw [found] at parts
      cases sign with
      | positive =>
          have notNegative : isNegative .positive = true → m = 0 := Bool.noConfusion
          rw [windowOf_finite parts notNegative,
            nearest_window (isNearest_fixedCount m e 9) (by positivity)]
          simp [ratio?, Sign.apply]
      | negative =>
          have below : ((Sign.negative.apply m : ℤ) : ℚ) * 2 ^ e < 0 := by
            simp only [Sign.apply]
            push_cast
            rw [neg_mul, Left.neg_neg_iff]
            positivity
          constructor
          · intro accepted
            simp [windowOf, parts, binaryOf, isNegative, positive.ne'] at accepted
          · rintro ⟨value, given, least, -⟩
            obtain rfl := Option.some.inj given
            exact absurd below (not_lt.mpr least)

/-! ## Whole seconds -/

theorem nearest_split (least : 0 ≤ value) (nearest : IsNearest (value * 10 ^ 9) window) :
    ∃ fraction : ℕ, IsNearest (Int.fract value * 10 ^ 9) fraction ∧ fraction ≤ 10 ^ 9 ∧
      window = ⌊value⌋₊ * 10 ^ 9 + fraction := by
  have whole : ((⌊value⌋₊ : ℕ) : ℤ) = ⌊value⌋ := Int.natCast_floor_eq_floor least
  have even : Even (-(⌊value⌋ * 10 ^ 9)) := by
    rw [even_neg]
    exact Even.mul_left (by decide) _
  have rest : IsNearest (Int.fract value * 10 ^ 9) (window - ⌊value⌋ * 10 ^ 9) := by
    have shifted := nearest.add_even even
    have number : value * 10 ^ 9 + ((-(⌊value⌋ * 10 ^ 9) : ℤ) : ℚ) = Int.fract value * 10 ^ 9 := by
      rw [← Int.self_sub_floor value]
      push_cast
      ring
    rwa [number, ← sub_eq_add_neg] at shifted
  have above : 0 ≤ (window : ℤ) - ⌊value⌋ * 10 ^ 9 := by
    refine IsNearest.mono ?_ (isNearest_self 0) rest
    have := Int.fract_nonneg value
    push_cast
    positivity
  have below : (window : ℤ) - ⌊value⌋ * 10 ^ 9 ≤ 10 ^ 9 := by
    refine IsNearest.mono ?_ rest (isNearest_self _)
    have := (Int.fract_lt_one value).le
    push_cast
    linarith
  obtain ⟨fraction, same⟩ := Int.eq_ofNat_of_zero_le above
  rw [same] at rest below
  refine ⟨fraction, rest, by exact_mod_cast below, ?_⟩
  rw [← whole] at same
  omega

/-- The numbers of seconds that are accepted are those which are not negative and come to at least one
nanosecond and to less than 2^64 seconds when they are rounded; and the window is what they are rounded
to. It has as many whole seconds as the number, and one more if the rest is rounded up to a second. More
seconds give no shorter window. -/
theorem window_exact (seconds : Float) :
    (∀ window : ℕ, windowOf seconds = .ok window ↔ ∃ value, valueOf? seconds = some value ∧ 0 ≤ value ∧
      IsNearest (value * 10 ^ 9) window ∧ 1 ≤ window ∧ window < 2 ^ 64 * 10 ^ 9) ∧
    (∀ (window : ℕ) (value : ℚ), windowOf seconds = .ok window → valueOf? seconds = some value →
      ∃ fraction : ℕ, IsNearest (Int.fract value * 10 ^ 9) fraction ∧ fraction ≤ 10 ^ 9 ∧
        window / 10 ^ 9 = (if fraction = 10 ^ 9 then ⌊value⌋₊ + 1 else ⌊value⌋₊) ∧
        window % 10 ^ 9 = if fraction = 10 ^ 9 then 0 else fraction) ∧
    ∀ (later : Float) (window window' : ℕ), seconds ≤ later → windowOf seconds = .ok window →
      windowOf later = .ok window' → window ≤ window' := by
  refine ⟨windowOf_eq_ok seconds, ?_, ?_⟩
  · intro window value accepted given
    obtain ⟨value', given', least, nearest, -⟩ := (windowOf_eq_ok seconds window).mp accepted
    obtain rfl := Option.some.inj (given.symm.trans given')
    obtain ⟨fraction, rest, bound, sum⟩ := nearest_split least nearest
    refine ⟨fraction, rest, bound, ?_⟩
    rw [sum]
    split
    · omega
    · omega
  · intro later window window' less accepted accepted'
    obtain ⟨value, given, least, nearest, positive, -⟩ := (windowOf_eq_ok seconds window).mp accepted
    obtain ⟨value', given', -, nearest', -⟩ := (windowOf_eq_ok later window').mp accepted'
    have above : 0 < value := by
      refine least.lt_of_ne ?_
      rintro rfl
      rw [zero_mul] at nearest
      have none : (window : ℤ) = 0 := nearest.unique (by exact_mod_cast isNearest_self 0)
      omega
    have more : value * 10 ^ 9 ≤ value' * 10 ^ 9 :=
      mul_le_mul_of_nonneg_right (value_mono less given given' above) (by norm_num)
    exact_mod_cast nearest.mono more nearest'

theorem almostOneSecond_exact :
    windowOf 0.9999999996 = .ok 1000000000 ∧ (0.9999999996 : Float) ≤ 1.5 ∧
      windowOf 1.5 = .ok 1500000000 ∧ 1000000000 ≤ 1500000000 := by
  have parts : Decimal.Binary.ofFloat 0.9999999996 = .finite false 9007199251138112 (-53) := by
    decide +kernel
  have parts' : Decimal.Binary.ofFloat 1.5 = .finite false 6755399441055744 (-52) := by
    decide +kernel
  have accepted : windowOf 0.9999999996 = .ok 1000000000 :=
    (windowOf_finite parts nofun).mpr (by decide +kernel)
  have later : windowOf 1.5 = .ok 1500000000 := (windowOf_finite parts' nofun).mpr (by decide +kernel)
  have less : (0.9999999996 : Float) ≤ 1.5 := by decide
  exact ⟨accepted, less, later, (window_exact 0.9999999996).2.2 1.5 _ _ less accepted later⟩

end Accelerometer.Proofs.Window
