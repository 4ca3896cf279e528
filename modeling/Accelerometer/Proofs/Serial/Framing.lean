import Accelerometer.Serial.LineAssembler
import Mathlib.Tactic.Ring

/-!
# Framing of lines

Where terminators stand in a run of octets, and what cutting off the first line does with them.

* `cutLine?_eq_some`: the line that is cut off is followed by the rest; it ends in a terminator and
  has no other.
* `cutLine?_eq_none`: octets that no line can be cut off have no terminator.
-/

namespace Accelerometer.Proofs.Serial

def terminator : CodeUnit → List UInt8
  | .octet => [0x0A]
  | .pair => [0x0A, 0x00]

def TerminatedAt (unit : CodeUnit) (octets : List UInt8) (position : Nat) : Prop :=
  terminator unit <+: octets.drop (position * unit.width)

def IsLine (unit : CodeUnit) (line : List UInt8) : Prop :=
  line ≠ [] ∧ ∀ position, TerminatedAt unit line position → line.length = (position + 1) * unit.width

def Ended (unit : CodeUnit) (line : List UInt8) : Prop :=
  ∃ position, TerminatedAt unit line position ∧ line.length = (position + 1) * unit.width

/-! ## Units -/

theorem width_pos (unit : CodeUnit) : 0 < unit.width := by
  cases unit <;> decide

theorem terminator_length (unit : CodeUnit) : (terminator unit).length = unit.width := by
  cases unit <;> rfl

theorem unit_induction (unit : CodeUnit) {motive : List UInt8 → Prop}
    (short : ∀ octets, octets.length < unit.width → motive octets)
    (step : ∀ first rest, first.length = unit.width → motive rest → motive (first ++ rest))
    (octets : List UInt8) : motive octets := by
  induction size : octets.length using Nat.strong_induction_on generalizing octets with
  | _ size' ih =>
      by_cases less : octets.length < unit.width
      · exact short octets less
      · have width := width_pos unit
        rw [← List.take_append_drop unit.width octets]
        apply step
        · rw [List.length_take]
          omega
        · exact ih (octets.drop unit.width).length (by rw [List.length_drop]; omega) _ rfl

theorem not_terminatedAt_short {unit : CodeUnit} {octets : List UInt8}
    (short : octets.length < unit.width) (position : Nat) : ¬TerminatedAt unit octets position := by
  intro terminated
  have length := terminated.length_le
  rw [terminator_length, List.length_drop] at length
  omega

theorem terminatedAt_zero {unit : CodeUnit} {first : List UInt8} (width : first.length = unit.width)
    (rest : List UInt8) : TerminatedAt unit (first ++ rest) 0 ↔ first = terminator unit := by
  rw [TerminatedAt, Nat.zero_mul, List.drop_zero]
  constructor
  · rintro ⟨behind, equal⟩
    exact (List.append_inj_left equal ((terminator_length unit).trans width.symm)).symm
  · rintro rfl
    exact List.prefix_append ..

theorem terminatedAt_succ {unit : CodeUnit} {first : List UInt8} (width : first.length = unit.width)
    (rest : List UInt8) (position : Nat) :
    TerminatedAt unit (first ++ rest) (position + 1) ↔ TerminatedAt unit rest position := by
  have distance : (position + 1) * unit.width = first.length + position * unit.width := by
    rw [width]
    ring
  rw [TerminatedAt, distance, ← List.drop_drop, List.drop_left]
  rfl

/-! ## Lines -/

theorem isLine_terminator (unit : CodeUnit) : IsLine unit (terminator unit) := by
  have width := terminator_length unit
  have positive := width_pos unit
  constructor
  · intro empty
    rw [empty] at width
    exact absurd width (Nat.ne_of_lt positive)
  · intro position terminated
    cases position with
    | zero => rw [width, Nat.zero_add, Nat.one_mul]
    | succ position =>
        rw [← List.append_nil (terminator unit), terminatedAt_succ width] at terminated
        have short : ([] : List UInt8).length < unit.width := positive
        exact absurd terminated (not_terminatedAt_short short _)

theorem ended_terminator (unit : CodeUnit) : Ended unit (terminator unit) := by
  have width := terminator_length unit
  refine ⟨0, ?_, by rw [width, Nat.zero_add, Nat.one_mul]⟩
  rw [← List.append_nil (terminator unit)]
  exact (terminatedAt_zero width []).mpr rfl

theorem isLine_append {unit : CodeUnit} {first line : List UInt8} (width : first.length = unit.width)
    (other : first ≠ terminator unit) (isLine : IsLine unit line) : IsLine unit (first ++ line) := by
  refine ⟨by simp [isLine.1], ?_⟩
  intro position terminated
  cases position with
  | zero => exact absurd ((terminatedAt_zero width line).mp terminated) other
  | succ position =>
      have inner := isLine.2 position ((terminatedAt_succ width line position).mp terminated)
      rw [List.length_append, width, inner]
      ring

theorem ended_append {unit : CodeUnit} {first line : List UInt8} (width : first.length = unit.width)
    (ended : Ended unit line) : Ended unit (first ++ line) := by
  obtain ⟨position, terminated, length⟩ := ended
  refine ⟨position + 1, (terminatedAt_succ width line position).mpr terminated, ?_⟩
  rw [List.length_append, width, length]
  ring

/-! ## Cutting a line off -/

theorem cutLine?_short {unit : CodeUnit} {octets : List UInt8} (short : octets.length < unit.width) :
    unit.cutLine? octets = none := by
  match unit, octets, short with
  | .octet, [], _ => rfl
  | .pair, [], _ => rfl
  | .pair, [only], _ => rfl

theorem cutLine?_append {unit : CodeUnit} {first : List UInt8} (width : first.length = unit.width)
    (rest : List UInt8) :
    unit.cutLine? (first ++ rest) =
      if first = terminator unit then some (first, rest)
      else (unit.cutLine? rest).map fun cut => (first ++ cut.1, cut.2) := by
  match unit, first, width with
  | .octet, [only], _ => simp [CodeUnit.cutLine?, terminator]
  | .pair, [low, high], _ => simp [CodeUnit.cutLine?, terminator]

theorem cutLine?_eq_some {unit : CodeUnit} {octets line rest : List UInt8}
    (cut : unit.cutLine? octets = some (line, rest)) :
    octets = line ++ rest ∧ IsLine unit line ∧ Ended unit line := by
  induction octets using unit_induction unit generalizing line rest with
  | short octets short => simp [cutLine?_short short] at cut
  | step first behind width ih =>
      rw [cutLine?_append width] at cut
      split at cut
      · rename_i found
        obtain ⟨rfl, rfl⟩ := Prod.mk.inj (Option.some.inj cut)
        exact ⟨rfl, found ▸ isLine_terminator unit, found ▸ ended_terminator unit⟩
      · rename_i other
        obtain ⟨⟨line', rest'⟩, inner, equal⟩ := Option.map_eq_some_iff.mp cut
        obtain ⟨rfl, rfl⟩ := Prod.mk.inj equal
        obtain ⟨rfl, isLine, ended⟩ := ih inner
        exact ⟨(List.append_assoc ..).symm, isLine_append width other isLine, ended_append width ended⟩

theorem cutLine?_eq_none {unit : CodeUnit} {octets : List UInt8} (cut : unit.cutLine? octets = none)
    (position : Nat) : ¬TerminatedAt unit octets position := by
  induction octets using unit_induction unit generalizing position with
  | short octets short => exact not_terminatedAt_short short position
  | step first rest width ih =>
      rw [cutLine?_append width] at cut
      split at cut
      · cases cut
      · rename_i other
        cases position with
        | zero => rwa [terminatedAt_zero width]
        | succ position =>
            rw [terminatedAt_succ width]
            exact ih (Option.map_eq_none_iff.mp cut) position

theorem isLine_of_cutLine?_eq_none {unit : CodeUnit} {octets : List UInt8} (nonempty : octets ≠ [])
    (cut : unit.cutLine? octets = none) : IsLine unit octets :=
  ⟨nonempty, fun position terminated => absurd terminated (cutLine?_eq_none cut position)⟩

/-! ## Lines of single octets -/

theorem terminatedAt_octet {octets : List UInt8} {position : Nat} :
    TerminatedAt .octet octets position ↔ octets[position]? = some 0x0A := by
  rw [TerminatedAt, terminator, CodeUnit.width, Nat.mul_one, ← List.head?_drop]
  cases octets.drop position with
  | nil => simp
  | cons first rest => simp [List.cons_prefix_cons, eq_comm]

theorem octets_of_ended {line : List UInt8} (isLine : IsLine .octet line)
    (ended : Ended .octet line) : ∃ body, line = body ++ [0x0A] ∧ 0x0A ∉ body := by
  obtain ⟨position, terminated, length⟩ := ended
  rw [terminatedAt_octet] at terminated
  rw [CodeUnit.width, Nat.mul_one] at length
  have bound : position < line.length := by omega
  have last : (line)[position] = 0x0A := List.getElem_of_getElem? terminated |>.2
  refine ⟨line.take position, ?_, ?_⟩
  · rw [← last, List.take_append_getElem, ← length, List.take_length]
  · intro inside
    obtain ⟨earlier, less, found⟩ := List.mem_take_iff_getElem.mp inside
    have other := isLine.2 earlier (terminatedAt_octet.mpr (by rw [← found, List.getElem?_eq_getElem]))
    rw [CodeUnit.width, Nat.mul_one] at other
    omega

theorem octets_of_not_ended {line : List UInt8} (isLine : IsLine .octet line)
    (notEnded : ¬Ended .octet line) : 0x0A ∉ line := by
  intro inside
  obtain ⟨position, found⟩ := List.mem_iff_getElem?.mp inside
  have terminated := terminatedAt_octet.mpr found
  exact notEnded ⟨position, terminated, isLine.2 position terminated⟩

end Accelerometer.Proofs.Serial
