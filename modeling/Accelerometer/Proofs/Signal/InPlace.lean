import Accelerometer.Proofs.Signal.Convolution
import Mathlib.Algebra.Ring.Int.Defs

/-!
# Convolution in place

The same convolution on one list of totals, to which every product is added at its position. Each access
to a total, each subtraction and the cut out of the totals are checked: where one is out of range, there
is no result.

* `addScaled?_eq`, `addAllScaled?_eq`: one pass over the kernel, and all of them.
* `convolveInPlace?_eq`: no check ever fails, and the result is the centred convolution.
* `convolution_entrywise`: its length, and each entry as a sum.
-/

namespace Accelerometer.Proofs.Signal
open Accelerometer.Signal

variable {α : Type}

/-! ## Checked operations -/

def difference? (whole part : Nat) : Option Nat :=
  if part ≤ whole then some (whole - part) else none

def between? (entries : List α) (first last : Nat) : Option (List α) :=
  if first ≤ last ∧ last ≤ entries.length then some ((entries.drop first).take (last - first))
  else none

def addAt? [Add α] (totals : List α) (position : Nat) (term : α) : Option (List α) :=
  totals[position]?.map fun total => totals.set position (total + term)

def addScaled? [Add α] [Mul α] (kernel totals : List α) (entry : α × Nat) : Option (List α) :=
  kernel.zipIdx.foldlM (fun totals weight => addAt? totals (entry.2 + weight.2) (entry.1 * weight.1))
    totals

def addAllScaled? [Add α] [Mul α] (kernel totals signal : List α) : Option (List α) :=
  signal.zipIdx.foldlM (addScaled? kernel) totals

def convolveInPlace? [Zero α] [Add α] [Mul α] (signal kernel : List α) : Option (List α) :=
  if signal.isEmpty ∨ kernel.isEmpty then some []
  else do
    let size ← difference? (signal.length + kernel.length) 1
    let full ← addAllScaled? kernel (List.replicate size 0) signal
    let shorter := min signal.length kernel.length
    let offset ← difference? (← difference? shorter 1) (shorter / 2)
    between? full offset (offset + max signal.length kernel.length)

/-! ## Adding up in place -/

theorem addAt?_append [Add α] (settled totals : List α) (total term : α) :
    addAt? (settled ++ total :: totals) settled.length term =
      some (settled ++ (total + term) :: totals) := by
  simp [addAt?]

/-- A pass over the weights from the `first` on, in front of whose total others are `settled`. -/
theorem foldlM_addAt? [Add α] [Mul α] (entry : α) {shift first : Nat} {weights settled totals : List α}
    (here : settled.length = shift + first) (fits : weights.length ≤ totals.length) :
    (weights.zipIdx first).foldlM
        (fun totals weight => addAt? totals (shift + weight.2) (entry * weight.1))
        (settled ++ totals) =
      some (settled ++ addOnto totals (weights.map fun weight => entry * weight)) := by
  induction weights generalizing first settled totals with
  | nil => cases totals <;> simp [addOnto]
  | cons weight weights ih =>
      cases totals with
      | nil => simp at fits
      | cons total totals =>
          have next : (settled ++ [total + entry * weight]).length = shift + (first + 1) := by
            rw [List.length_append, here]
            rfl
          have others := ih next (Nat.le_of_succ_le_succ fits)
          rw [List.append_assoc, List.append_assoc] at others
          rw [List.zipIdx_cons, List.foldlM_cons, ← here, addAt?_append]
          exact others

theorem addScaled?_eq [Add α] [Mul α] (entry : α) {kernel settled totals : List α}
    (fits : kernel.length ≤ totals.length) :
    addScaled? kernel (settled ++ totals) (entry, settled.length) =
      some (settled ++ addOnto totals (kernel.map fun weight => entry * weight)) :=
  foldlM_addAt? entry rfl fits

theorem addAllScaled?_from [Add α] [Mul α] {signal kernel totals : List α} (settled : List α)
    (nonempty : kernel ≠ []) (length : totals.length = signal.length + kernel.length - 1) :
    (signal.zipIdx settled.length).foldlM (addScaled? kernel) (settled ++ totals) =
      some (settled ++ overlapAdd kernel totals signal) := by
  induction signal generalizing settled totals with
  | nil => rfl
  | cons entry signal ih =>
      have positive := List.length_pos_iff.mpr nonempty
      rw [List.length_cons] at length
      have fits : kernel.length ≤ totals.length := by omega
      have size : (addOnto totals (kernel.map fun weight => entry * weight)).length = totals.length :=
        length_addOnto (by rwa [List.length_map])
      rw [List.zipIdx_cons, List.foldlM_cons, addScaled?_eq entry fits, overlapAdd]
      cases added : addOnto totals (kernel.map fun weight => entry * weight) with
      | nil =>
          rw [added, List.length_nil] at size
          omega
      | cons total others =>
          rw [added, List.length_cons] at size
          -- the total in front is final: no later entry of the signal reaches it
          have rest := ih (settled ++ [total]) (show others.length = _ by omega)
          rw [List.length_append, List.append_assoc, List.append_assoc] at rest
          exact rest

theorem addAllScaled?_eq [Zero α] [Add α] [Mul α] {signal kernel : List α} (nonempty : kernel ≠ []) :
    addAllScaled? kernel (List.replicate (signal.length + kernel.length - 1) 0) signal =
      some (convolveFull signal kernel) :=
  addAllScaled?_from [] nonempty List.length_replicate

/-! ## The whole -/

variable [Zero α] [Add α] [Mul α] {signal kernel : List α}

theorem length_convolveFull (nonempty : kernel ≠ []) :
    (convolveFull signal kernel).length = signal.length + kernel.length - 1 := by
  have entries (position : Nat) : (convolveFull signal kernel)[position]? = _ :=
    overlapAdd_getElem? nonempty List.length_replicate position
  apply Nat.le_antisymm
  · rw [← List.getElem?_eq_none_iff, entries]
    simp
  · by_contra short
    rw [Nat.not_le] at short
    have entry := convolveFull_getElem? nonempty short
    rw [List.getElem?_eq_none (Nat.le_refl _)] at entry
    cases entry

theorem length_centredConvolution (signalNonempty : signal ≠ []) (kernelNonempty : kernel ≠ []) :
    (centredConvolution signal kernel).length = max signal.length kernel.length := by
  have signalLength := List.length_pos_iff.mpr signalNonempty
  have kernelLength := List.length_pos_iff.mpr kernelNonempty
  simp only [centredConvolution, List.isEmpty_iff, signalNonempty, kernelNonempty, or_self, if_false,
    List.length_take, List.length_drop, length_convolveFull kernelNonempty]
  omega

theorem centredConvolution_eq_nil :
    centredConvolution signal kernel = [] ↔ signal = [] ∨ kernel = [] := by
  constructor
  · intro empty
    by_contra nonempty
    obtain ⟨signalNonempty, kernelNonempty⟩ := not_or.mp nonempty
    have length := length_centredConvolution signalNonempty kernelNonempty
    have positive := List.length_pos_iff.mpr signalNonempty
    rw [empty, List.length_nil] at length
    omega
  · rintro (rfl | rfl) <;> simp [centredConvolution]

/-- Every total that is asked for is there, no difference is negative, and the middle lies within the
full convolution. -/
theorem convolveInPlace?_eq (signal kernel : List α) :
    convolveInPlace? signal kernel = some (centredConvolution signal kernel) := by
  by_cases empty : signal.isEmpty ∨ kernel.isEmpty
  · rw [convolveInPlace?, centredConvolution, if_pos empty, if_pos empty]
  · rw [convolveInPlace?, centredConvolution, if_neg empty, if_neg empty]
    simp only [List.isEmpty_iff, not_or] at empty
    obtain ⟨signalNonempty, kernelNonempty⟩ := empty
    have signalLength := List.length_pos_iff.mpr signalNonempty
    have kernelLength := List.length_pos_iff.mpr kernelNonempty
    have size : difference? (signal.length + kernel.length) 1 = some _ := if_pos (by omega)
    have last : difference? (min signal.length kernel.length) 1 = some _ := if_pos (by omega)
    have offset : difference? (min signal.length kernel.length - 1)
        (min signal.length kernel.length / 2) = some _ := if_pos (by omega)
    simp only [size, last, offset, addAllScaled?_eq kernelNonempty, Option.bind_eq_bind, Option.bind_some]
    rw [between?, if_pos, Nat.add_sub_cancel_left]
    rw [length_convolveFull kernelNonempty]
    omega

/-- The centred convolution in any arithmetic, no law of which is used. On one list of totals it is
computed without a check that fails. It is empty only for an empty signal or kernel. Else it is as long as
the longer of the two, and each entry is the sum of the products that meet half of the shorter further
on, from zero and in the order of the signal. -/
theorem convolution_entrywise (signal kernel : List α) :
    convolveInPlace? signal kernel = some (centredConvolution signal kernel) ∧
    (centredConvolution signal kernel = [] ↔ signal = [] ∨ kernel = []) ∧
    (signal ≠ [] → kernel ≠ [] →
      (centredConvolution signal kernel).length = max signal.length kernel.length ∧
      ∀ position < max signal.length kernel.length,
        (centredConvolution signal kernel)[position]? =
          some (convolutionEntry signal kernel
            (position + (min signal.length kernel.length - 1) / 2))) := by
  refine ⟨convolveInPlace?_eq signal kernel, centredConvolution_eq_nil, ?_⟩
  intro signalNonempty kernelNonempty
  refine ⟨length_centredConvolution signalNonempty kernelNonempty, ?_⟩
  intro position bound
  exact centredConvolution_getElem? signalNonempty kernelNonempty bound

theorem longKernel_entrywise :
    [(1 : Int), 0, -1] ≠ [] ∧ [(1 : Int), 2, 3, 4] ≠ [] ∧
      (centredConvolution [(1 : Int), 0, -1] [1, 2, 3, 4]).length = 4 ∧
      (centredConvolution [(1 : Int), 0, -1] [1, 2, 3, 4])[3]? = some (-3) := by
  have signal : [(1 : Int), 0, -1] ≠ [] := by simp
  have kernel : [(1 : Int), 2, 3, 4] ≠ [] := by simp
  obtain ⟨-, -, entries⟩ := convolution_entrywise [(1 : Int), 0, -1] [1, 2, 3, 4]
  obtain ⟨length, entry⟩ := entries signal kernel
  exact ⟨signal, kernel, length, entry 3 (by decide)⟩

end Accelerometer.Proofs.Signal
