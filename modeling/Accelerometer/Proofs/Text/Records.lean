import Accelerometer.Proofs.Text.Words
import Accelerometer.Text.Lines
import Mathlib.Data.List.Basic

/-!
# Records of a text

The pieces between the line feeds of a text.
-/

namespace Accelerometer.Proofs.Text

variable {text : List Char}

def recordsOf (text : List Char) : List (List Char) :=
  let pieces := text.splitOn '\n'
  if pieces.getLast? = some [] then pieces.dropLast else pieces

theorem recordsOf_nil : recordsOf [] = [] := by
  rfl

theorem recordsOf_line (plain : '\n' ∉ text) (rest : List Char) :
    recordsOf (text ++ '\n' :: rest) = text :: recordsOf rest := by
  obtain ⟨first, others, pieces⟩ := List.exists_cons_of_ne_nil (List.splitOn_ne_nil '\n' rest)
  rw [recordsOf, recordsOf, List.splitOn_append_cons_self_of_not_mem plain, pieces,
    List.getLast?_cons_cons, List.dropLast_cons_cons]
  split <;> rfl

theorem recordsOf_last (plain : '\n' ∉ text) (nonempty : text ≠ []) : recordsOf text = [text] := by
  rw [recordsOf, List.splitOn_eq_singleton plain, List.getLast?_singleton]
  simp [nonempty]

end Accelerometer.Proofs.Text
