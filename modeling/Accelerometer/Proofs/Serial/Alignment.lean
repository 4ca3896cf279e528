import Accelerometer.Proofs.Serial.Breaks

/-!
# Lines and the units of their stream

Terminators are looked for in units counted from the front of what is pending. As long as no wait has
ended inside a unit, these are the units of the whole stream.

* `boundary_on_unit`: what has been handed out so far ends with a unit of the stream.
* `lines_on_units`: terminators of the stream are found, and nothing else is taken for one.
* `halfUnit_off_units`: after half a unit they are missed.
-/

namespace Accelerometer.Proofs.Serial
open LineAssembler

variable {σ : Type} {unit : CodeUnit} {framing : Framing}

/-- A line behind the octets `before` of its stream has a terminator on a unit of the stream at most
at its end, and none at its end that is not on a unit. -/
structure OnUnits (unit : CodeUnit) (before line : List UInt8) : Prop where
  ends : ∀ front, line = front ++ terminator unit → unit.width ∣ (before ++ front).length
  inside : ∀ front back, line = front ++ terminator unit ++ back →
    unit.width ∣ (before ++ front).length → back = []

/-- Of the waits that ended inside a record when no more than `octets` had been heard, none has ended
inside a unit. -/
def UnitsWhole (framing : Framing) (reads : List (Cue Arrival)) (octets : List UInt8) : Prop :=
  ∀ heard ∈ (watched framing reads).breaks, heard <+: octets → framing.unit.width ∣ heard.length

theorem onUnits_of_isLine {before line : List UInt8} (front : unit.width ∣ before.length)
    (all : unit.width ∣ (before ++ line).length) (isLine : IsLine unit line) :
    OnUnits unit before line := by
  rw [List.length_append, Nat.dvd_add_iff_right front |>.symm] at all
  constructor
  · rintro start rfl
    rw [List.length_append, terminator_length, Nat.dvd_add_self_right] at all
    rw [List.length_append]
    exact Nat.dvd_add front all
  · rintro start back rfl place
    rw [List.length_append, Nat.dvd_add_iff_right front |>.symm] at place
    obtain ⟨position, length⟩ := place
    have terminated : TerminatedAt unit (start ++ terminator unit ++ back) position := by
      rw [TerminatedAt, Nat.mul_comm, ← length, List.append_assoc, List.drop_left]
      exact List.prefix_append ..
    have size := isLine.2 position terminated
    rw [List.length_append, List.length_append, terminator_length, length, Nat.mul_comm,
      Nat.add_mul, Nat.one_mul] at size
    exact List.length_eq_zero_iff.mp (by omega)

/-! ## Any number of calls -/

variable {device : ByteSource σ} {fuel : LineAssembler (Logged σ) → Nat} {source : σ}
  {calls : List (Cue LineArrival)} {assembler : LineAssembler (Logged σ)}

theorem boundary_on_unit
    (made : Calls (lineStream (logged device) framing fuel) (fresh source) calls assembler)
    {before after : List (List UInt8)} (split : linesOf calls = before ++ after)
    (whole : UnitsWhole framing assembler.source.reads before.flatten) :
    framing.unit.width ∣ before.flatten.length := by
  induction before using List.reverseRecOn generalizing after with
  | nil => simp
  | append_singleton before line ih =>
      rw [List.append_assoc, List.singleton_append] at split
      rcases (calls_watched made).2 before line after split with ended | broken
      · have earlier : before.flatten <+: (before ++ [line]).flatten := by simp
        have front := ih split fun heard member grown => whole heard member (grown.trans earlier)
        obtain ⟨position, -, length⟩ := ended
        rw [List.flatten_append, List.flatten_singleton, List.length_append, length]
        exact Nat.dvd_add front (Nat.dvd_mul_left ..)
      · exact whole _ broken List.prefix_rfl

/-- However a device behaves and however often a line is asked for: a line ends in a terminator only
where the stream has one on its units, and no terminator on the units of the stream is missed inside a
line, unless a wait has ended inside a unit before, or with that line. -/
theorem lines_on_units (device : ByteSource σ) (framing : Framing)
    (fuel : LineAssembler (Logged σ) → Nat) (source : σ) (calls : List (Cue LineArrival))
    (assembler : LineAssembler (Logged σ))
    (made : Calls (lineStream (logged device) framing fuel) (fresh source) calls assembler)
    (before : List (List UInt8)) (line : List UInt8) (after : List (List UInt8))
    (split : linesOf calls = before ++ line :: after)
    (whole : UnitsWhole framing assembler.source.reads (before ++ [line]).flatten) :
    OnUnits framing.unit before.flatten line := by
  have split' : linesOf calls = (before ++ [line]) ++ after := by simp [split]
  have earlier : before.flatten <+: (before ++ [line]).flatten := by simp
  have front := boundary_on_unit made split fun heard member grown =>
    whole heard member (grown.trans earlier)
  have all := boundary_on_unit made split' whole
  rw [List.flatten_append, List.flatten_singleton] at all
  exact onUnits_of_isLine front all (calls_framed made line (by simp [split]))

def wholeUnits : ScriptedDevice :=
  .ofCues [⟨1, .chunk [0x31, 0x00]⟩, ⟨1, .fault ⟨.timedOut, none⟩⟩,
    ⟨1, .chunk [0x32, 0x00, 0x0A]⟩, ⟨1, .chunk [0x00]⟩] 1

theorem wholeUnits_on_units :
    ∃ assembler,
      Calls (lineStream (logged ScriptedDevice.source) ⟨.pair, 9⟩ fun _ => 5) (fresh wholeUnits)
        [⟨2, .line [0x31, 0x00]⟩, ⟨2, .line [0x32, 0x00, 0x0A, 0x00]⟩] assembler ∧
      UnitsWhole ⟨.pair, 9⟩ assembler.source.reads [0x31, 0x00, 0x32, 0x00, 0x0A, 0x00] ∧
      OnUnits .pair [0x31, 0x00] [0x32, 0x00, 0x0A, 0x00] := by
  have start : Calls (lineStream (logged ScriptedDevice.source) ⟨.pair, 9⟩ fun _ => 5)
      (fresh wholeUnits) [] (fresh wholeUnits) := .none _
  have made := Calls.more (.more start rfl) rfl
  have whole : UnitsWhole ⟨.pair, 9⟩ wholeUnits.cues [0x31, 0x00, 0x32, 0x00, 0x0A, 0x00] := by
    intro heard broken _
    obtain rfl := List.mem_singleton.mp broken
    decide
  exact ⟨_, made, whole, lines_on_units _ _ _ _ _ _ made [[0x31, 0x00]] _ [] rfl whole⟩

def halfUnit : ScriptedDevice :=
  .ofCues [⟨0, .chunk [0x31]⟩, ⟨0, .fault ⟨.timedOut, none⟩⟩,
    ⟨0, .chunk [0x00, 0x0A, 0x00, 0x32, 0x00, 0x0A, 0x00]⟩] 1000

/-- The two terminators that follow half a unit both stay inside one line. -/
theorem halfUnit_off_units :
    ¬∀ calls assembler,
      Calls (lineStream (logged ScriptedDevice.source) ⟨Encoding.utf16.unit, 1000⟩ fun _ => 5)
        (fresh halfUnit) calls assembler →
      ∀ before line after, linesOf calls = before ++ line :: after →
        OnUnits .pair before.flatten line := by
  intro aligned
  have start : Calls (lineStream (logged ScriptedDevice.source) ⟨Encoding.utf16.unit, 1000⟩ fun _ => 5)
      (fresh halfUnit) [] (fresh halfUnit) := .none _
  have made := Calls.more (.more start rfl) rfl
  have placed := aligned _ _ made [[0x31]] [0x00, 0x0A, 0x00, 0x32, 0x00, 0x0A, 0x00] [] rfl
  have ended := placed.inside [0x00] [0x32, 0x00, 0x0A, 0x00] rfl (by decide)
  cases ended

end Accelerometer.Proofs.Serial
