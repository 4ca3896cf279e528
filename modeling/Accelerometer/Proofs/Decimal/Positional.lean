import Accelerometer.Decimal.Numeral
import Accelerometer.Decimal.Notation
import Mathlib

/-!
# Numbers written out in full

* `isWhole_toDigits`: natural numbers have no zeros at the front.
* `ofGrid_value`: leaving out the zeros at the right end keeps the value.
* `positionalText_parts`: the digits on either side of the point, and the value that they have.
-/

namespace Accelerometer.Proofs.Decimal
open Accelerometer.Decimal

variable {d : Digits} {count : ℕ} {place : ℤ}

structure IsWhole (digits : List Char) : Prop where
  isDigit : ∀ c ∈ digits, c.isDigit = true
  nonempty : digits ≠ []
  zero : digits.head? = some '0' → digits = ['0']

structure IsDecimal (whole fraction : List Char) : Prop where
  isWhole : IsWhole whole
  isDigit : ∀ c ∈ fraction, c.isDigit = true
  nonempty : fraction ≠ []

def valueOf (d : Digits) : ℚ :=
  ofDigits d.digits * 10 ^ (d.point - d.digits.length)

theorem ofDigits_eq (digits : List Char) : ofDigits digits = Nat.ofDigitChars 10 digits 0 := by
  rfl

theorem ofDigits_toDigits (count : ℕ) : ofDigits (Nat.toDigits 10 count) = count :=
  Nat.ofDigitChars_ten_toDigits

theorem ofDigits_zeros (digits : List Char) (zeros : ℕ) :
    ofDigits (digits ++ List.replicate zeros '0') = 10 ^ zeros * ofDigits digits := by
  rw [ofDigits_eq, Nat.ofDigitChars_append, Nat.ofDigitChars_replicate_zero, ofDigits_eq]

theorem zeros_ofDigits (zeros : ℕ) (digits : List Char) :
    ofDigits (List.replicate zeros '0' ++ digits) = ofDigits digits := by
  rw [ofDigits_eq, Nat.ofDigitChars_append, Nat.ofDigitChars_replicate_zero, mul_zero, ofDigits_eq]

theorem head_toDigits (nonzero : count ≠ 0) : (Nat.toDigits 10 count).head? ≠ some '0' := by
  induction count using Nat.strong_induction_on with
  | _ count ih =>
    rw [Nat.toDigits_eq_if (by decide)]
    split
    · rename_i small
      have digit : ∀ n < 10, n ≠ 0 → [n.digitChar].head? ≠ some '0' := by decide
      exact digit count small nonzero
    · rename_i large
      rw [List.head?_append_of_ne_nil _ Nat.toDigits_ne_nil]
      exact ih (count / 10) (by omega) (by omega)

theorem isWhole_toDigits (count : ℕ) : IsWhole (Nat.toDigits 10 count) where
  isDigit _ member := Nat.isDigit_of_mem_toDigits (by decide) (by decide) member
  nonempty := Nat.toDigits_ne_nil
  zero begins := by
    obtain rfl : count = 0 := by
      by_contra nonzero
      exact head_toDigits nonzero begins
    rfl

/-! ## Trailing zeros -/

theorem ofGrid_written (count : ℕ) (place : ℤ) : ∃ zeros,
    Nat.toDigits 10 count = (Digits.ofGrid count place).digits ++ List.replicate zeros '0' := by
  have split := List.takeWhile_append_dropWhile (p := (· == '0')) (l := (Nat.toDigits 10 count).reverse)
  have zeros : (Nat.toDigits 10 count).reverse.takeWhile (· == '0') =
      List.replicate ((Nat.toDigits 10 count).reverse.takeWhile (· == '0')).length '0' := by
    refine List.eq_replicate_of_mem fun c member => ?_
    simpa using List.mem_takeWhile_imp member
  refine ⟨((Nat.toDigits 10 count).reverse.takeWhile (· == '0')).length, ?_⟩
  rw [← List.reverse_replicate, ← zeros, Digits.ofGrid, ← List.reverse_append, split,
    List.reverse_reverse]

theorem ofGrid_value (count : ℕ) (place : ℤ) :
    valueOf (Digits.ofGrid count place) = count * 10 ^ place := by
  obtain ⟨zeros, written⟩ := ofGrid_written count place
  have value := ofDigits_toDigits count
  rw [written, ofDigits_zeros] at value
  have point : (Digits.ofGrid count place).point = place + (Nat.toDigits 10 count).length := rfl
  have places : (Digits.ofGrid count place).point - (Digits.ofGrid count place).digits.length =
      zeros + place := by
    rw [point, written, List.length_append, List.length_replicate]
    push_cast
    ring
  rw [valueOf, places, zpow_add₀ (by norm_num), zpow_natCast]
  generalize ofDigits (Digits.ofGrid count place).digits = digits at value ⊢
  rw [← value]
  push_cast
  ring

theorem ofGrid_head (positive : 0 < count) (place : ℤ) :
    (Digits.ofGrid count place).digits.head? ≠ some '0' := by
  obtain ⟨zeros, written⟩ := ofGrid_written count place
  intro begins
  apply head_toDigits positive.ne'
  rw [written, List.head?_append, begins]
  rfl

/-! ## The point -/

theorem isWhole_zero : IsWhole ['0'] :=
  isWhole_toDigits 0

theorem isDigit_zeros (zeros : ℕ) : ∀ c ∈ List.replicate zeros '0', c.isDigit = true := by
  intro c member
  rw [List.eq_of_mem_replicate member]
  rfl

theorem isWhole_of_head {digits : List Char} (isDigit : ∀ c ∈ digits, c.isDigit = true)
    (nonempty : digits ≠ []) (first : digits.head? ≠ some '0') : IsWhole digits :=
  ⟨isDigit, nonempty, fun begins => absurd begins first⟩

theorem zeros_below (isDigit : ∀ c ∈ d.digits, c.isDigit = true) (nonempty : d.digits ≠ [])
    (below : d.point ≤ 0) :
    IsDecimal ['0'] (List.replicate (-d.point).toNat '0' ++ d.digits) ∧
      (ofDigits (['0'] ++ (List.replicate (-d.point).toNat '0' ++ d.digits)) : ℚ) *
        10 ^ (-((List.replicate (-d.point).toNat '0' ++ d.digits).length : ℤ)) = valueOf d := by
  have digits : ofDigits (['0'] ++ (List.replicate (-d.point).toNat '0' ++ d.digits)) =
      ofDigits d.digits := by
    rw [← List.append_assoc, List.singleton_append, ← List.replicate_succ, zeros_ofDigits]
  have places : -((List.replicate (-d.point).toNat '0' ++ d.digits).length : ℤ) =
      d.point - d.digits.length := by
    rw [List.length_append, List.length_replicate]
    omega
  refine ⟨⟨isWhole_zero, List.forall_mem_append.mpr ⟨isDigit_zeros _, isDigit⟩, by simp [nonempty]⟩, ?_⟩
  rw [digits, places, valueOf]

theorem zeros_above (isDigit : ∀ c ∈ d.digits, c.isDigit = true) (nonempty : d.digits ≠ [])
    (first : d.digits.head? ≠ some '0') (long : (d.digits.length : ℤ) ≤ d.point) :
    IsDecimal (d.digits ++ List.replicate (d.point.toNat - d.digits.length) '0') ['0'] ∧
      (ofDigits (d.digits ++ List.replicate (d.point.toNat - d.digits.length) '0' ++ ['0']) : ℚ) *
        10 ^ (-((['0'] : List Char).length : ℤ)) = valueOf d := by
  have whole : IsWhole (d.digits ++ List.replicate (d.point.toNat - d.digits.length) '0') := by
    refine isWhole_of_head (List.forall_mem_append.mpr ⟨isDigit, isDigit_zeros _⟩)
      (by simp [nonempty]) ?_
    rwa [List.head?_append_of_ne_nil _ nonempty]
  have places : d.point - d.digits.length = (d.point.toNat - d.digits.length : ℕ) := by omega
  refine ⟨⟨whole, isDigit_zeros 1, by simp⟩, ?_⟩
  rw [List.append_assoc, ← List.replicate_succ', ofDigits_zeros, valueOf, places, zpow_natCast]
  push_cast
  rw [pow_succ]
  norm_num
  ring

theorem point_inside (isDigit : ∀ c ∈ d.digits, c.isDigit = true)
    (first : d.digits.head? ≠ some '0') (above : 0 < d.point) (short : d.point < d.digits.length) :
    IsDecimal (d.digits.take d.point.toNat) (d.digits.drop d.point.toNat) ∧
      (ofDigits (d.digits.take d.point.toNat ++ d.digits.drop d.point.toNat) : ℚ) *
        10 ^ (-((d.digits.drop d.point.toNat).length : ℤ)) = valueOf d := by
  have places : -((d.digits.drop d.point.toNat).length : ℤ) = d.point - d.digits.length := by
    rw [List.length_drop]
    omega
  have whole : IsWhole (d.digits.take d.point.toNat) := by
    refine isWhole_of_head (fun c member => isDigit c (List.mem_of_mem_take member)) ?_ ?_
    · rw [← List.length_pos_iff, List.length_take]
      omega
    · rwa [List.head?_take, if_neg (by omega)]
  refine ⟨⟨whole, fun c member => isDigit c (List.mem_of_mem_drop member), ?_⟩, ?_⟩
  · rw [← List.length_pos_iff, List.length_drop]
    omega
  · rw [List.take_append_drop, places, valueOf]

theorem positionalText_parts (isDigit : ∀ c ∈ d.digits, c.isDigit = true)
    (first : d.digits.head? ≠ some '0') : ∃ whole fraction,
      positionalText true d = whole ++ '.' :: fraction ∧ IsDecimal whole fraction ∧
      (ofDigits (whole ++ fraction) : ℚ) * 10 ^ (-(fraction.length : ℤ)) = valueOf d := by
  simp only [positionalText, if_true]
  split
  · rename_i empty
    have none : d.digits = [] := List.isEmpty_iff.mp empty
    refine ⟨['0'], ['0'], rfl, ⟨isWhole_zero, isDigit_zeros 1, by simp⟩, ?_⟩
    have nothing : ofDigits [] = 0 := rfl
    have zero : ofDigits (['0'] ++ ['0']) = 0 := rfl
    rw [valueOf, none, nothing, zero, Nat.cast_zero, zero_mul, zero_mul]
  · rename_i nonempty
    have nonempty : d.digits ≠ [] := mt List.isEmpty_iff.mpr nonempty
    split
    · rename_i below
      exact ⟨_, _, by simp, zeros_below isDigit nonempty (by omega)⟩
    · rename_i above
      split
      · rename_i long
        exact ⟨_, _, rfl, zeros_above isDigit nonempty first (by omega)⟩
      · rename_i short
        exact ⟨_, _, rfl, point_inside isDigit first (by omega) (by omega)⟩

end Accelerometer.Proofs.Decimal
