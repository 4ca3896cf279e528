import Accelerometer.Text.LetterCase
import Mathlib

/-!
# Lower-case texts

* `not_isUpper_lower`: the lower-case form of a text has no capital letter of ASCII, whatever characters
  it comes from.
* `lower_eq_self`: a text of ASCII without capital letters is its own lower-case form.
-/

namespace Accelerometer.Proofs.Text
open Accelerometer.Text

variable {c other : Char} {text : List Char}

theorem not_isUpper_of_lt (beyond : 0x5A < c.toNat) : c.isUpper = false := by
  rw [Char.isUpper, decide_eq_false_iff_not]
  rintro ⟨-, last⟩
  exact absurd (UInt32.le_iff_toNat_le.mp last) (Nat.not_le.mpr beyond)

/-- No character beyond ASCII is mapped to a capital letter of ASCII. -/
theorem lowerRuns_beyond : ∀ run ∈ lowerRuns, 0x5A < (run.first : Int) + run.offset := by
  decide +kernel

theorem not_isUpper_ofNat {code : Nat} (beyond : 0x5A < code) : (Char.ofNat code).isUpper = false := by
  by_cases valid : code.isValidChar
  · apply not_isUpper_of_lt
    rwa [Char.toNat_ofNat, if_pos valid]
  · have none : Char.ofNat code = '\x00' := by
      rw [Char.ofNat, dif_neg valid]
      rfl
    rw [none]
    rfl

theorem not_isUpper_lowerChar (member : c ∈ lowerChar other) : c.isUpper = false := by
  unfold lowerChar at member
  split at member
  · rw [List.mem_singleton.mp member]
    exact Char.isUpper_toLower_eq_false other
  · rename_i beyond
    split at member
    · rcases List.mem_pair.mp member with rfl | rfl <;> rfl
    · split at member
      · rename_i run found
        have least := lowerRuns_beyond run (List.mem_of_find?_eq_some found)
        have inside := List.find?_some found
        simp only [CaseRun.holds, Bool.and_eq_true, decide_eq_true_eq] at inside
        rw [List.mem_singleton.mp member]
        exact not_isUpper_ofNat (by omega)
      · rw [List.mem_singleton.mp member]
        exact not_isUpper_of_lt (by omega)

theorem not_isUpper_lowerFrom (before : List Char) (member : c ∈ lowerFrom before text) :
    c.isUpper = false := by
  induction text generalizing before with
  | nil => cases member
  | cons first text ih =>
      rw [lowerFrom] at member
      rcases List.mem_append.mp member with here | later
      · split at here
        · split at here <;> rw [List.mem_singleton.mp here] <;> rfl
        · exact not_isUpper_lowerChar here
      · exact ih _ later

theorem not_isUpper_lower (member : c ∈ lower text) : c.isUpper = false :=
  not_isUpper_lowerFrom [] member

theorem lowerFrom_eq_self (before : List Char)
    (small : ∀ c ∈ text, c.toNat < 0x80 ∧ c.isUpper = false) : lowerFrom before text = text := by
  induction text generalizing before with
  | nil => rfl
  | cons c text ih =>
      obtain ⟨ascii, noCapital⟩ := small c List.mem_cons_self
      have noSigma : c ≠ 'Σ' := by
        rintro rfl
        exact absurd ascii (by decide)
      have same : lowerChar c = [c] := by
        rw [lowerChar, if_pos ascii, Char.toLower_eq_of_not_isUpper (by simp [noCapital])]
      rw [lowerFrom, if_neg noSigma, same, ih _ fun other member => small other (List.mem_cons_of_mem _ member)]
      rfl

theorem lower_eq_self (small : ∀ c ∈ text, c.toNat < 0x80 ∧ c.isUpper = false) : lower text = text :=
  lowerFrom_eq_self [] small

end Accelerometer.Proofs.Text
