import Accelerometer.Csv.Row
import Accelerometer.Decimal.Notation

/-!
# Numbers as fields of a table

* `mem_shortest`: the fewest digits of a double are decimal digits.
* `mem_plain`: the characters of a number written out in full.
* `needsQuotes_plain`: such a number can stand in a row as it is.
-/

namespace Accelerometer.Proofs.Decimal
open Accelerometer.Decimal

variable {c : Char} {d : Digits}

def symbols : List Char :=
  ['-', '.', 'N', 'a', 'i', 'n', 'f']

theorem mem_ofGrid {count : Nat} {place : Int} (member : c ∈ (Digits.ofGrid count place).digits) :
    c.isDigit = true := by
  have written := (List.dropWhile_suffix _).subset (List.mem_reverse.mp member)
  exact Nat.isDigit_of_mem_toDigits (by decide) (by decide) (List.mem_reverse.mp written)

theorem mem_shortest {tie : Tie} {significand : Nat} {exponent : Int}
    (member : c ∈ (shortest tie significand exponent).digits) : c.isDigit = true := by
  simp only [shortest] at member
  generalize found : List.findSome? _ (List.range maxDigits) = result at member
  cases result with
  | none => cases member
  | some digits =>
      obtain ⟨more, -, given⟩ := List.exists_of_findSome?_eq_some found
      obtain ⟨count, -, rfl⟩ := Option.map_eq_some_iff.mp given
      exact mem_ofGrid member

theorem mem_positionalText (digits : ∀ c ∈ d.digits, c.isDigit = true)
    (member : c ∈ positionalText false d) : c.isDigit = true ∨ c = '.' := by
  have zeros : ∀ count, c ∈ List.replicate count '0' → c.isDigit = true := by
    intro count inside
    rw [List.eq_of_mem_replicate inside]
    rfl
  have front : ∀ count, c ∈ d.digits.take count → c.isDigit = true :=
    fun count inside => digits c (List.mem_of_mem_take inside)
  have back : ∀ count, c ∈ d.digits.drop count → c.isDigit = true :=
    fun count inside => digits c (List.mem_of_mem_drop inside)
  simp only [positionalText, Bool.false_eq_true, if_false] at member
  split at member
  · obtain rfl := List.mem_singleton.mp member
    exact .inl rfl
  · split at member
    · simp only [List.mem_append, List.mem_cons, List.not_mem_nil, or_false] at member
      rcases member with ((rfl | rfl) | zero) | digit
      · exact .inl rfl
      · exact .inr rfl
      · exact .inl (zeros _ zero)
      · exact .inl (digits c digit)
    · split at member
      · simp only [List.mem_append, List.not_mem_nil, or_false] at member
        rcases member with digit | zero
        · exact .inl (digits c digit)
        · exact .inl (zeros _ zero)
      · simp only [List.mem_append, List.mem_cons] at member
        rcases member with digit | rfl | digit
        · exact .inl (front _ digit)
        · exact .inr rfl
        · exact .inl (back _ digit)

theorem mem_plain {x : Float} (member : c ∈ (plain.text x).toList) :
    c.isDigit = true ∨ c ∈ symbols := by
  unfold Layout.text at member
  cases value : Binary.ofFloat x with
  | nan =>
      have word : (plain.valueText .nan).toList ⊆ symbols := by decide
      exact .inr (word (value ▸ member))
  | infinite negative =>
      have word : (plain.valueText (.infinite negative)).toList ⊆ symbols := by
        cases negative <;> decide
      exact .inr (word (value ▸ member))
  | finite negative significand exponent =>
      rw [value, Layout.valueText, String.toList_ofList, List.mem_append] at member
      rcases member with sign | digit
      · cases negative with
        | false => cases sign
        | true =>
            obtain rfl := List.mem_singleton.mp sign
            exact .inr (by decide)
      · have digits : ∀ c ∈ (if significand = 0 then (⟨[], 0⟩ : Digits)
            else shortest plain.tie significand exponent).digits, c.isDigit = true := by
          intro c inside
          split at inside
          · cases inside
          · exact mem_shortest inside
        rcases mem_positionalText digits digit with isDigit | rfl
        · exact .inl isDigit
        · exact .inr (by decide)

theorem needsQuotes_plain (x : Float) : Csv.needsQuotes (plain.text x).toList = false := by
  have layout : ∀ c ∈ symbols, (c == ',' || c == '"' || Text.isLineEnd c) = false := by
    simp [symbols, Text.isLineEnd]
  rw [Csv.needsQuotes, List.any_eq_false]
  intro c member
  rcases mem_plain member with digit | other
  · simp only [Text.isLineEnd, Bool.or_eq_true, beq_iff_eq]
    rintro ((rfl | rfl) | rfl | rfl) <;> cases digit
  · rw [layout c other]
    decide

end Accelerometer.Proofs.Decimal
