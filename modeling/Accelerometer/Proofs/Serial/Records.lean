import Accelerometer.Proofs.Serial.Alignment

/-!
# Records of a stream

A device sends records, each with its terminator. A line that is handed out is one of them, unless a
wait has ended inside a record beside it.

* `records_append`: the records of a stream that has been cut behind a terminator.
* `records_of_isLine`: octets without a terminator inside are one record.
* `line_is_record`: which lines are records.
-/

namespace Accelerometer.Proofs.Serial
open LineAssembler

variable {σ : Type} {unit : CodeUnit} {framing : Framing}

def recordsFrom : CodeUnit → List UInt8 → List UInt8 → List (List UInt8)
  | .octet, begun, only :: rest =>
    if only = 0x0A then (begun ++ [only]) :: recordsFrom .octet [] rest
    else recordsFrom .octet (begun ++ [only]) rest
  | .pair, begun, low :: high :: rest =>
    if low = 0x0A ∧ high = 0 then (begun ++ [low, high]) :: recordsFrom .pair [] rest
    else recordsFrom .pair (begun ++ [low, high]) rest
  | _, begun, short => if begun ++ short = [] then [] else [begun ++ short]

/-- The records of a stream: what ends in a terminator on the units of the stream, and what follows the
last one. -/
def records (unit : CodeUnit) (stream : List UInt8) : List (List UInt8) :=
  recordsFrom unit [] stream

def IsRecord (unit : CodeUnit) (stream before record : List UInt8) : Prop :=
  ∃ earlier later, records unit stream = earlier ++ record :: later ∧ earlier.flatten = before

/-- Where a line begins, or where it ends before the end of the stream, a wait has ended inside a
record; or one has ended inside a unit before. -/
def BesideBreak (framing : Framing) (reads : List (Cue Arrival)) (before line : List UInt8) : Prop :=
  before ∈ (watched framing reads).breaks ∨
  before ++ line ∈ (watched framing reads).breaks ∧ before ++ line ≠ heard reads ∨
  ¬UnitsWhole framing reads before

/-! ## Cutting a stream into records -/

theorem records_nil : records unit [] = [] := by
  cases unit <;> rfl

theorem recordsFrom_short {octets : List UInt8} (short : octets.length < unit.width)
    (begun : List UInt8) :
    recordsFrom unit begun octets = if begun ++ octets = [] then [] else [begun ++ octets] := by
  match unit, octets, short with
  | .octet, [], _ => rfl
  | .pair, [], _ => rfl
  | .pair, [only], _ => rfl

theorem recordsFrom_append {first : List UInt8} (width : first.length = unit.width)
    (begun rest : List UInt8) :
    recordsFrom unit begun (first ++ rest) =
      if first = terminator unit then (begun ++ first) :: records unit rest
      else recordsFrom unit (begun ++ first) rest := by
  match unit, first, width with
  | .octet, [only], _ => simp [recordsFrom, records, terminator]
  | .pair, [low, high], _ => simp [recordsFrom, records, terminator]

theorem ended_of_append {first rest : List UInt8} (width : first.length = unit.width)
    (ended : Ended unit (first ++ rest)) : first = terminator unit ∧ rest = [] ∨ Ended unit rest := by
  obtain ⟨position, terminated, length⟩ := ended
  rw [List.length_append, width, Nat.add_mul, Nat.one_mul, Nat.add_comm, Nat.add_right_cancel_iff]
    at length
  cases position with
  | zero =>
      rw [Nat.zero_mul, List.length_eq_zero_iff] at length
      exact .inl ⟨(terminatedAt_zero width rest).mp terminated, length⟩
  | succ position => exact .inr ⟨position, (terminatedAt_succ width rest position).mp terminated, length⟩

theorem recordsFrom_ended {before : List UInt8} (ended : Ended unit before)
    (begun rest : List UInt8) :
    recordsFrom unit begun (before ++ rest) = recordsFrom unit begun before ++ records unit rest := by
  induction before using unit_induction unit generalizing begun with
  | short octets short =>
      obtain ⟨position, terminated, -⟩ := ended
      exact absurd terminated (not_terminatedAt_short short position)
  | step first others width ih =>
      rw [List.append_assoc, recordsFrom_append width, recordsFrom_append width]
      rcases ended_of_append width ended with ⟨rfl, rfl⟩ | ended
      · rw [if_pos rfl, if_pos rfl, List.nil_append, records_nil]
        rfl
      · split
        · rw [records, ih ended]
          rfl
        · rw [ih ended]

theorem records_append {before : List UInt8} (front : before = [] ∨ Ended unit before)
    (rest : List UInt8) : records unit (before ++ rest) = records unit before ++ records unit rest := by
  rcases front with rfl | ended
  · rw [records_nil]
    rfl
  · exact recordsFrom_ended ended [] rest

theorem recordsFrom_line {line : List UInt8}
    (framed : ∀ position, TerminatedAt unit line position →
      line.length = (position + 1) * unit.width) (begun : List UInt8) :
    recordsFrom unit begun line = if begun ++ line = [] then [] else [begun ++ line] := by
  induction line using unit_induction unit generalizing begun with
  | short octets short => exact recordsFrom_short short begun
  | step first rest width ih =>
      have nonempty : begun ++ (first ++ rest) ≠ [] := by
        have positive := width_pos unit
        rw [← width] at positive
        simp [List.ne_nil_of_length_pos positive]
      rw [recordsFrom_append width, if_neg nonempty]
      split
      · rename_i found
        have length := framed 0 ((terminatedAt_zero width rest).mpr found)
        rw [List.length_append, width, Nat.zero_add, Nat.one_mul, Nat.add_eq_left,
          List.length_eq_zero_iff] at length
        rw [length, List.append_nil, records_nil]
      · have inner : ∀ position, TerminatedAt unit rest position →
            rest.length = (position + 1) * unit.width := by
          intro position terminated
          have length := framed (position + 1) ((terminatedAt_succ width rest position).mpr terminated)
          rw [List.length_append, width, Nat.add_mul, Nat.one_mul, Nat.add_comm] at length
          exact Nat.add_right_cancel length
        rw [ih inner, List.append_assoc, if_neg nonempty]

theorem records_of_isLine {line : List UInt8} (isLine : IsLine unit line) :
    records unit line = [line] := by
  rw [records, recordsFrom_line isLine.2, List.nil_append, if_neg isLine.1]

theorem flatten_recordsFrom (octets begun : List UInt8) :
    (recordsFrom unit begun octets).flatten = begun ++ octets := by
  induction octets using unit_induction unit generalizing begun with
  | short octets short =>
      rw [recordsFrom_short short]
      split
      · rename_i empty
        rw [empty, List.flatten_nil]
      · rw [List.flatten_singleton]
  | step first rest width ih =>
      rw [recordsFrom_append width]
      split
      · rw [List.flatten_cons, records, ih, List.nil_append, List.append_assoc]
      · rw [ih, List.append_assoc]

theorem flatten_records (stream : List UInt8) : (records unit stream).flatten = stream :=
  flatten_recordsFrom stream []

/-! ## Lines and records -/

theorem ended_of_aligned {front line : List UInt8} (aligned : unit.width ∣ front.length)
    (ended : Ended unit line) : Ended unit (front ++ line) := by
  induction front using unit_induction unit with
  | short octets short =>
      rw [List.length_eq_zero_iff.mp (Nat.eq_zero_of_dvd_of_lt aligned short)]
      exact ended
  | step first rest width ih =>
      rw [List.length_append, width, Nat.dvd_add_self_left] at aligned
      rw [List.append_assoc]
      exact ended_append width (ih aligned)

variable {device : ByteSource σ} {fuel : LineAssembler (Logged σ) → Nat} {source : σ}
  {calls : List (Cue LineArrival)} {assembler : LineAssembler (Logged σ)}

/-- As long as no wait has ended inside a unit, a stream is cut behind a terminator wherever it is not
cut by the end of a wait. -/
theorem ended_unless_broken
    (made : Calls (lineStream (logged device) framing fuel) (fresh source) calls assembler)
    {before after : List (List UInt8)} (split : linesOf calls = before ++ after)
    (whole : UnitsWhole framing assembler.source.reads before.flatten)
    (unbroken : before.flatten ∉ (watched framing assembler.source.reads).breaks) :
    before.flatten = [] ∨ Ended framing.unit before.flatten := by
  rcases List.eq_nil_or_concat before with rfl | ⟨earlier, last, rfl⟩
  · exact .inl rfl
  · right
    rw [List.concat_eq_append] at split whole unbroken ⊢
    have grown : earlier.flatten <+: (earlier ++ [last]).flatten := by simp
    have aligned := boundary_on_unit made (split.trans (List.append_assoc ..)) fun heard member shorter =>
      whole heard member (shorter.trans grown)
    rw [List.append_assoc, List.singleton_append] at split
    rcases (calls_watched made).2 earlier last after split with ended | broken
    · rw [List.flatten_append, List.flatten_singleton]
      exact ended_of_aligned aligned ended
    · exact absurd broken unbroken

theorem line_is_record
    (made : Calls (lineStream (logged device) framing fuel) (fresh source) calls assembler)
    {before after : List (List UInt8)} {line : List UInt8}
    (split : linesOf calls = before ++ line :: after) :
    IsRecord framing.unit (heard assembler.source.reads) before.flatten line ∨
      BesideBreak framing assembler.source.reads before.flatten line := by
  by_cases beside : BesideBreak framing assembler.source.reads before.flatten line
  · exact .inr beside
  · left
    obtain ⟨notBefore, notBehind, whole⟩ := not_or.mp beside |>.imp_right not_or.mp
    have front := ended_unless_broken made split (Classical.not_not.mp whole) notBefore
    have single := records_of_isLine (calls_framed made line (by simp [split]))
    have all : before.flatten ++ (line ++ (after.flatten ++ assembler.pending)) =
        heard assembler.source.reads := by
      rw [← calls_conserved made, split]
      simp
    refine ⟨records framing.unit before.flatten,
      records framing.unit (after.flatten ++ assembler.pending), ?_, flatten_records _⟩
    rw [← all, records_append front]
    rcases (calls_watched made).2 before line after split with ended | broken
    · rw [records_append (.inr ended), single]
      rfl
    · -- the wait has ended with the last octet that was heard, and nothing follows the line
      rw [List.flatten_append, List.flatten_singleton] at broken
      have last : before.flatten ++ line = heard assembler.source.reads := by
        by_contra more
        exact notBehind ⟨broken, more⟩
      rw [← last, List.append_right_inj, List.append_right_eq_self] at all
      rw [all, List.append_nil, single, records_nil]

end Accelerometer.Proofs.Serial
