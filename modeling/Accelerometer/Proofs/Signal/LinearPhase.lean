import Accelerometer.Proofs.Signal.Design
import Accelerometer.Signal.Response
import Mathlib.Analysis.SpecialFunctions.Log.Base
import Mathlib.Analysis.SpecialFunctions.Trigonometric.Basic

/-!
# Linear phase and unit gain

The design of a low-pass filter over the real numbers, with their sine and cosine: nothing is rounded.

* `hammingAt_mirror`, `sinc_neg`: both factors of a tap are the same at mirrored positions.
* `lowPass_mirror`: so are the coefficients.
* `total_lowPass`: they sum to one.
* `lowPass_linear_phase`: both, and the response at zero.
-/

namespace Accelerometer.Proofs.Signal
open Accelerometer.Signal

noncomputable instance : Arithmetic ℝ where
  ofNat := Nat.cast
  pi := Real.pi
  sin := Real.sin
  cos := Real.cos
  log10 := Real.logb 10
  hypot x y := √(x ^ 2 + y ^ 2)
  isZero x := decide (x = 0)

variable {α : Type} [Arithmetic α] {taps n : ℕ}

/-! ## Single taps -/

def hammingAt (length n : ℕ) : α :=
  if length = 1 then 1.0
  else 0.54 - 0.46 * Arithmetic.cos (2.0 * Arithmetic.pi * Arithmetic.ofNat n /
    Arithmetic.ofNat (length - 1))

def tapAt (taps : ℕ) (cutoff : α) (n : ℕ) : α :=
  cutoff * sinc (cutoff * (Arithmetic.ofNat n - 0.5 * Arithmetic.ofNat (taps - 1))) * hammingAt taps n

theorem hamming_eq (length : ℕ) :
    hamming (α := α) length = (List.range length).map (hammingAt length) := by
  unfold hamming hammingAt
  by_cases one : length = 1
  · simp [one]
  · simp [one]

theorem unscaledTaps_eq (taps : ℕ) (cutoff : α) :
    unscaledTaps taps cutoff = (List.range taps).map (tapAt taps cutoff) := by
  rw [unscaledTaps, hamming_eq]
  apply List.ext_getElem
  · simp
  · intro n _ _
    simp [tapAt]

/-! ## Mirrored positions -/

theorem hammingAt_mirror (inside : n < taps) :
    (hammingAt taps (taps - 1 - n) : ℝ) = hammingAt taps n := by
  unfold hammingAt
  split
  · rfl
  · rename_i notOne
    have span : ((taps - 1 : ℕ) : ℝ) ≠ 0 := Nat.cast_ne_zero.mpr (by omega)
    have turned : 2.0 * Real.pi * ((taps - 1 - n : ℕ) : ℝ) / ((taps - 1 : ℕ) : ℝ) =
        2 * Real.pi - 2.0 * Real.pi * (n : ℝ) / ((taps - 1 : ℕ) : ℝ) := by
      rw [Nat.cast_sub (by omega), (by norm_num : (2.0 : ℝ) = 2)]
      field_simp
    have cosine : Real.cos (2.0 * Real.pi * ((taps - 1 - n : ℕ) : ℝ) / ((taps - 1 : ℕ) : ℝ)) =
        Real.cos (2.0 * Real.pi * (n : ℝ) / ((taps - 1 : ℕ) : ℝ)) := by
      rw [turned, Real.cos_two_pi_sub]
    exact congrArg (fun wave : ℝ => 0.54 - 0.46 * wave) cosine

theorem sinc_neg (x : ℝ) : sinc (-x) = sinc x := by
  show (if decide (-x = 0) = true then 1.0 else Real.sin (Real.pi * -x) / (Real.pi * -x)) =
    if decide (x = 0) = true then 1.0 else Real.sin (Real.pi * x) / (Real.pi * x)
  simp only [neg_eq_zero, mul_neg, Real.sin_neg, neg_div_neg_eq]

theorem tapAt_mirror (cutoff : ℝ) (inside : n < taps) :
    tapAt taps cutoff (taps - 1 - n) = tapAt taps cutoff n := by
  have distance : ((taps - 1 - n : ℕ) : ℝ) - 0.5 * ((taps - 1 : ℕ) : ℝ) =
      -((n : ℝ) - 0.5 * ((taps - 1 : ℕ) : ℝ)) := by
    rw [Nat.cast_sub (by omega)]
    ring
  have argument : cutoff * (((taps - 1 - n : ℕ) : ℝ) - 0.5 * ((taps - 1 : ℕ) : ℝ)) =
      -(cutoff * ((n : ℝ) - 0.5 * ((taps - 1 : ℕ) : ℝ))) := by
    rw [distance, mul_neg]
  have main : sinc (cutoff * (((taps - 1 - n : ℕ) : ℝ) - 0.5 * ((taps - 1 : ℕ) : ℝ))) =
      sinc (cutoff * ((n : ℝ) - 0.5 * ((taps - 1 : ℕ) : ℝ))) := by
    rw [argument, sinc_neg]
  rw [tapAt, tapAt, hammingAt_mirror inside]
  exact congrArg (fun value : ℝ => cutoff * value * hammingAt taps n) main

/-! ## Coefficients -/

noncomputable def gainOf (taps : ℕ) (cutoff rate : ℝ) : ℝ :=
  total (unscaledTaps taps (cutoff / nyquist rate))

theorem lowPass_eq (taps : ℕ) (cutoff rate : ℝ) :
    lowPass taps cutoff rate = (List.range taps).map fun n =>
      tapAt taps (cutoff / nyquist rate) n / gainOf taps cutoff rate := by
  unfold lowPass gainOf
  simp only [unscaledTaps_eq, List.map_map]
  rfl

theorem lowPass_mirror (cutoff rate : ℝ) (inside : n < taps) :
    (lowPass taps cutoff rate)[n]? = (lowPass taps cutoff rate)[taps - 1 - n]? := by
  have mirrored : taps - 1 - n < taps := by omega
  rw [lowPass_eq, List.getElem?_map, List.getElem?_map, List.getElem?_range inside,
    List.getElem?_range mirrored, Option.map_some, Option.map_some, tapAt_mirror _ inside]

theorem total_eq_sum (terms : List ℝ) : total terms = terms.sum :=
  List.sum_eq_foldl.symm

theorem sum_div (terms : List ℝ) (gain : ℝ) : (terms.map (· / gain)).sum = terms.sum / gain := by
  simp only [div_eq_mul_inv, List.sum_map_mul_right, List.map_id']

theorem total_lowPass {cutoff rate : ℝ} (nonzero : gainOf taps cutoff rate ≠ 0) :
    total (lowPass taps cutoff rate) = 1 := by
  rw [gainOf, total_eq_sum] at nonzero
  rw [lowPass, total_eq_sum, total_eq_sum]
  exact (sum_div _ _).trans (div_self nonzero)

/-! ## The response at zero -/

theorem transfer_from (coefficients : List ℝ) (first : ℕ) (re im : ℝ) :
    (coefficients.zipIdx first).foldl
      (fun (re, im) (weight, n) =>
        (re + weight * Real.cos (0 * (n : ℝ)), im - weight * Real.sin (0 * (n : ℝ)))) (re, im) =
      (coefficients.foldl (· + ·) re, im) := by
  induction coefficients generalizing first re with
  | nil => rfl
  | cons weight coefficients ih =>
      rw [List.zipIdx_cons, List.foldl_cons, List.foldl_cons]
      simp only [zero_mul, Real.cos_zero, Real.sin_zero, mul_one, mul_zero, sub_zero] at ih ⊢
      exact ih (first + 1) (re + weight)

theorem transfer_zero (coefficients : List ℝ) : transfer coefficients 0 = (total coefficients, 0) :=
  transfer_from coefficients 0 0 0

theorem response_zero (coefficients : List ℝ) (rate : ℝ) {points : ℕ} (some : 0 < points) :
    (response coefficients rate points)[0]? =
      .some ⟨0, 20 * Real.logb 10 |total coefficients|⟩ := by
  have zeroth : responseAt coefficients rate points 0 = ⟨0, 20 * Real.logb 10 |total coefficients|⟩ := by
    have angle : Real.pi * ((0 : ℕ) : ℝ) / (points : ℝ) = 0 := by simp
    show ResponsePoint.mk (Real.pi * ((0 : ℕ) : ℝ) / (points : ℝ) * rate / (2.0 * Real.pi))
      (20.0 * Real.logb 10 (√((transfer coefficients (Real.pi * ((0 : ℕ) : ℝ) / (points : ℝ))).1 ^ 2 +
        (transfer coefficients (Real.pi * ((0 : ℕ) : ℝ) / (points : ℝ))).2 ^ 2))) = _
    rw [angle, transfer_zero]
    norm_num [Real.sqrt_sq_eq_abs]
  rw [response, List.getElem?_map, List.getElem?_range some, Option.map_some, zeroth]

/-- The design of a low-pass filter over the real numbers, for any number of taps, cutoff and rate: there
are as many coefficients as taps, and they are the same from either end. If the taps do not sum to
zero, the coefficients sum to one, so that at zero hertz the response is one, which is zero decibels. -/
theorem lowPass_linear_phase (taps : ℕ) (cutoff rate : ℝ) :
    (lowPass taps cutoff rate).length = taps ∧
      (∀ n < taps, (lowPass taps cutoff rate)[n]? = (lowPass taps cutoff rate)[taps - 1 - n]?) ∧
      (total (unscaledTaps taps (cutoff / nyquist rate)) ≠ 0 →
        total (lowPass taps cutoff rate) = 1 ∧ transfer (lowPass taps cutoff rate) 0 = (1, 0) ∧
          ∀ points, 0 < points →
            (response (lowPass taps cutoff rate) rate points)[0]? = some ⟨0, 0⟩) := by
  refine ⟨?_, fun n inside => lowPass_mirror cutoff rate inside, ?_⟩
  · rw [lowPass_eq, List.length_map, List.length_range]
  · intro nonzero
    have unit : total (lowPass taps cutoff rate) = 1 := total_lowPass nonzero
    refine ⟨unit, by rw [transfer_zero, unit], ?_⟩
    intro points some
    rw [response_zero _ rate some, unit, abs_one, Real.logb_one, mul_zero]

theorem sinc_half : sinc (0.5 : ℝ) = 2 / Real.pi := by
  show (if decide ((0.5 : ℝ) = 0) = true then 1.0
    else Real.sin (Real.pi * 0.5) / (Real.pi * 0.5)) = 2 / Real.pi
  have quarter : Real.pi * 0.5 = Real.pi / 2 := by ring
  rw [if_neg (by norm_num), quarter, Real.sin_pi_div_two, one_div_div]

theorem sinc_zero : sinc (0 : ℝ) = 1 := by
  show (if decide ((0 : ℝ) = 0) = true then 1.0 else _) = (1 : ℝ)
  norm_num

theorem quarterBand_linear_phase :
    total (unscaledTaps 3 ((100 : ℝ) / nyquist 400)) ≠ 0 ∧ total (lowPass 3 (100 : ℝ) 400) = 1 := by
  have share : (100 : ℝ) / nyquist 400 = 0.5 := by
    show (100 : ℝ) / (400 / 2.0) = 0.5
    norm_num
  have left : tapAt 3 (0.5 : ℝ) 0 = 0.08 / Real.pi := by
    show 0.5 * sinc (0.5 * (((0 : ℕ) : ℝ) - 0.5 * ((2 : ℕ) : ℝ))) *
      (0.54 - 0.46 * Real.cos (2.0 * Real.pi * ((0 : ℕ) : ℝ) / ((2 : ℕ) : ℝ))) = 0.08 / Real.pi
    have argument : (0.5 : ℝ) * (((0 : ℕ) : ℝ) - 0.5 * ((2 : ℕ) : ℝ)) = -0.5 := by norm_num
    rw [argument, sinc_neg, sinc_half]
    norm_num
    ring
  have middle : tapAt 3 (0.5 : ℝ) 1 = 0.5 := by
    show 0.5 * sinc (0.5 * (((1 : ℕ) : ℝ) - 0.5 * ((2 : ℕ) : ℝ))) *
      (0.54 - 0.46 * Real.cos (2.0 * Real.pi * ((1 : ℕ) : ℝ) / ((2 : ℕ) : ℝ))) = 0.5
    have argument : (0.5 : ℝ) * (((1 : ℕ) : ℝ) - 0.5 * ((2 : ℕ) : ℝ)) = 0 := by norm_num
    have half : 2.0 * Real.pi * ((1 : ℕ) : ℝ) / ((2 : ℕ) : ℝ) = Real.pi := by
      norm_num
    rw [argument, sinc_zero, half, Real.cos_pi]
    norm_num
  have right : tapAt 3 (0.5 : ℝ) 2 = 0.08 / Real.pi :=
    (tapAt_mirror (n := 0) 0.5 (by decide)).trans left
  have nonzero : total (unscaledTaps 3 ((100 : ℝ) / nyquist 400)) ≠ 0 := by
    have sum : total (unscaledTaps 3 ((100 : ℝ) / nyquist 400)) =
        0.08 / Real.pi + (0.5 + 0.08 / Real.pi) := by
      rw [share, unscaledTaps_eq, total_eq_sum]
      simp [List.range_succ, left, middle, right]
    rw [sum]
    have := Real.pi_pos
    positivity
  exact ⟨nonzero, ((lowPass_linear_phase 3 100 400).2.2 nonzero).1⟩

end Accelerometer.Proofs.Signal
