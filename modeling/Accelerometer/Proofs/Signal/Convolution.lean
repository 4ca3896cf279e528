import Accelerometer.Signal.Convolution
import Mathlib.Data.List.Basic

/-!
# Entries of a convolution

Each entry is the sum of the products of those entries of signal and kernel whose positions add up to
its own, in any arithmetic and in the order of the signal.

* `convolveFull_getElem?`: the full convolution.
* `centredConvolution_getElem?`: its middle.
-/

namespace Accelerometer.Proofs.Signal
open Accelerometer.Signal

variable {α : Type} {position : Nat}

def convolutionTerms [Mul α] (signal kernel : List α) (position : Nat) : List α :=
  (List.range (position + 1)).filterMap fun i =>
    signal[i]?.bind fun entry => kernel[position - i]?.map fun weight => entry * weight

def convolutionEntry [Zero α] [Add α] [Mul α] (signal kernel : List α) (position : Nat) : α :=
  (convolutionTerms signal kernel position).foldl (· + ·) 0

/-- How far a middle of the given length stands behind the front of what it is the middle of, if the
rest is shared out to both sides and the back gets what is left over. -/
def centringDelay (length : Nat) : Nat :=
  (length - 1) / 2

/-! ## Products that meet -/

theorem convolutionTerms_cons_zero [Mul α] (entry : α) (signal kernel : List α) :
    convolutionTerms (entry :: signal) kernel 0 =
      (kernel.map fun weight => entry * weight)[0]?.toList := by
  cases kernel <;> simp [convolutionTerms]

theorem convolutionTerms_cons_succ [Mul α] (entry : α) (signal kernel : List α) (position : Nat) :
    convolutionTerms (entry :: signal) kernel (position + 1) =
      (kernel.map fun weight => entry * weight)[position + 1]?.toList ++
        convolutionTerms signal kernel position := by
  have later : ((fun i => (entry :: signal)[i]?.bind fun entry =>
      kernel[position + 1 - i]?.map fun weight => entry * weight) ∘ Nat.succ) =
      fun i => signal[i]?.bind fun entry => kernel[position - i]?.map fun weight => entry * weight := by
    funext i
    simp
  rw [convolutionTerms, List.range_succ_eq_map, List.filterMap_cons, List.filterMap_map, later,
    List.getElem?_map]
  simp only [List.getElem?_cons_zero, Nat.sub_zero, Option.bind_some]
  cases kernel[position + 1]? <;> rfl

/-! ## Adding up -/

theorem length_addOnto [Add α] {totals terms : List α} (fits : terms.length ≤ totals.length) :
    (addOnto totals terms).length = totals.length := by
  induction totals generalizing terms with
  | nil => cases terms <;> simp_all [addOnto]
  | cons total totals ih =>
      cases terms with
      | nil => rfl
      | cons term terms => simp [addOnto, ih (Nat.le_of_succ_le_succ fits)]

theorem addOnto_getElem? [Add α] {totals terms : List α} (fits : terms.length ≤ totals.length)
    (position : Nat) :
    (addOnto totals terms)[position]? =
      totals[position]?.map fun total => terms[position]?.toList.foldl (· + ·) total := by
  induction totals generalizing terms position with
  | nil => cases terms <;> simp_all [addOnto]
  | cons total totals ih =>
      cases terms with
      | nil => simp [addOnto]
      | cons term terms =>
          cases position with
          | zero => simp [addOnto]
          | succ position => simpa [addOnto] using ih (Nat.le_of_succ_le_succ fits) position

theorem overlapAdd_getElem? [Add α] [Mul α] {signal kernel totals : List α} (nonempty : kernel ≠ [])
    (length : totals.length = signal.length + kernel.length - 1) (position : Nat) :
    (overlapAdd kernel totals signal)[position]? =
      totals[position]?.map fun total =>
        (convolutionTerms signal kernel position).foldl (· + ·) total := by
  induction signal generalizing totals position with
  | nil => simp [overlapAdd, convolutionTerms]
  | cons entry signal ih =>
      have positive := List.length_pos_iff.mpr nonempty
      rw [List.length_cons] at length
      have fits : (kernel.map fun weight => entry * weight).length ≤ totals.length := by
        rw [List.length_map]
        omega
      have sums := addOnto_getElem? fits
      have size := length_addOnto fits
      rw [overlapAdd]
      split
      · rename_i none
        rw [none, List.length_nil] at size
        omega
      · rename_i settled others added
        rw [added] at sums size
        rw [List.length_cons] at size
        cases position with
        | zero =>
            have first := sums 0
            rw [List.getElem?_cons_zero] at first ⊢
            rw [first, convolutionTerms_cons_zero]
        | succ position =>
            have next := sums (position + 1)
            rw [List.getElem?_cons_succ] at next ⊢
            rw [ih (by omega), next, Option.map_map, convolutionTerms_cons_succ]
            simp only [List.foldl_append]
            rfl

variable [Zero α] [Add α] [Mul α] {signal kernel : List α}

theorem convolveFull_getElem? (nonempty : kernel ≠ [])
    (bound : position < signal.length + kernel.length - 1) :
    (convolveFull signal kernel)[position]? = some (convolutionEntry signal kernel position) := by
  rw [convolveFull, overlapAdd_getElem? nonempty List.length_replicate, List.getElem?_replicate,
    if_pos bound]
  rfl

/-! ## The middle -/

theorem centring_eq {length : Nat} (positive : 0 < length) :
    length - 1 - length / 2 = centringDelay length := by
  rw [centringDelay]
  omega

/-- The middle starts as far behind the front as the shorter of signal and kernel asks for. -/
theorem centredConvolution_getElem? (signalNonempty : signal ≠ []) (kernelNonempty : kernel ≠ [])
    (bound : position < max signal.length kernel.length) :
    (centredConvolution signal kernel)[position]? =
      some (convolutionEntry signal kernel
        (position + centringDelay (min signal.length kernel.length))) := by
  have signalLength := List.length_pos_iff.mpr signalNonempty
  have kernelLength := List.length_pos_iff.mpr kernelNonempty
  have positive : 0 < min signal.length kernel.length := Nat.lt_min.mpr ⟨signalLength, kernelLength⟩
  simp only [centredConvolution, List.isEmpty_iff, signalNonempty, kernelNonempty, or_self, if_false]
  rw [List.getElem?_take_of_lt bound, List.getElem?_drop, centring_eq positive, Nat.add_comm]
  apply convolveFull_getElem? kernelNonempty
  rw [centringDelay]
  omega

end Accelerometer.Proofs.Signal
