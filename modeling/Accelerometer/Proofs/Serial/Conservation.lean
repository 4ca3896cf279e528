import Accelerometer.Proofs.Serial.Calls
import Accelerometer.Proofs.Serial.Framing

/-!
# Nothing is lost between a device and its lines

The lines handed out so far and the octets that are pending make up all that has been heard of the
device, in the middle of a call as well as between two calls.

* `hear_divides`, `readOnce_conserved`: what one read does.
* `awaitLine_conserved`, `nextLine_conserved`: what one call does.
* `lines_conserve_octets`: what any number of calls does.
-/

namespace Accelerometer.Proofs.Serial
open LineAssembler

variable {σ : Type} {framing : Framing}

def reached : Attempt σ → LineAssembler σ
  | .returned read => read.source
  | .underway _ assembler => assembler

/-- What an attempt makes of the octets that are pending or have arrived since. As long as it goes
on, no line can be cut off them. -/
def Divides (unit : CodeUnit) (octets : List UInt8) : Attempt σ → Prop
  | .returned read =>
      octets = ((line? read.outcome).getD []) ++ read.source.pending ∧
      (∀ line, read.outcome = .line line → IsLine unit line) ∧
      (read.outcome = .nothing → read.source.pending = [])
  | .underway _ assembler => octets = assembler.pending ∧ unit.cutLine? octets = none

def Conserved (unit : CodeUnit) (given : List UInt8) (attempt : Attempt (Logged σ)) : Prop :=
  ∃ octets, given ++ octets = heard (reached attempt).source.reads ∧ Divides unit octets attempt

/-! ## One read -/

theorem giveUp_divides {unit : CodeUnit} {spent : Duration} {assembler : LineAssembler σ}
    (unterminated : unit.cutLine? assembler.pending = none) :
    Divides unit assembler.pending (.returned (assembler.giveUp spent)) := by
  by_cases empty : assembler.pending = []
  · simp [Divides, giveUp, empty, line?]
  · have isLine := isLine_of_cutLine?_eq_none empty unterminated
    simp [Divides, giveUp, empty, line?, isLine]

theorem handOut?_divides {unit : CodeUnit} {spent : Duration} {assembler : LineAssembler σ}
    {read : Read (LineAssembler σ) LineArrival} (given : assembler.handOut? unit spent = some read) :
    Divides unit assembler.pending (.returned read) := by
  obtain ⟨⟨line, rest⟩, cut, rfl⟩ := Option.map_eq_some_iff.mp given
  obtain ⟨whole, isLine, -⟩ := cutLine?_eq_some cut
  simp [Divides, line?, whole, isLine]

theorem handOut?_eq_none {unit : CodeUnit} {spent : Duration} {assembler : LineAssembler σ} :
    assembler.handOut? unit spent = none ↔ unit.cutLine? assembler.pending = none :=
  Option.map_eq_none_iff

theorem carryOn_divides {spent : Duration} {assembler : LineAssembler σ}
    (unterminated : framing.unit.cutLine? assembler.pending = none) :
    Divides framing.unit assembler.pending (assembler.carryOn framing spent) := by
  unfold carryOn
  split
  · exact giveUp_divides unterminated
  · exact ⟨rfl, unterminated⟩

theorem hear_divides {spent : Duration} {assembler : LineAssembler σ} (arrival : Arrival)
    (unterminated : framing.unit.cutLine? assembler.pending = none) :
    Divides framing.unit (assembler.pending ++ arrived arrival)
      (assembler.hear framing spent arrival) := by
  cases arrival with
  | chunk octets =>
      cases octets with
      | nil => simpa [hear, arrived] using giveUp_divides unterminated
      | cons octet octets =>
          simp only [hear, arrived]
          split
          · rename_i read given
            exact handOut?_divides given
          · rename_i none
            exact carryOn_divides (handOut?_eq_none.mp none)
  | fault fault =>
      simp only [hear, arrived, List.append_nil]
      split
      · exact giveUp_divides unterminated
      · exact carryOn_divides unterminated
      · simp [Divides, line?]

theorem giveUp_source (spent : Duration) (assembler : LineAssembler σ) :
    (assembler.giveUp spent).source.source = assembler.source := by
  unfold giveUp
  split <;> rfl

theorem handOut?_source {unit : CodeUnit} {spent : Duration} {assembler : LineAssembler σ}
    {read : Read (LineAssembler σ) LineArrival} (given : assembler.handOut? unit spent = some read) :
    read.source.source = assembler.source := by
  obtain ⟨cut, -, rfl⟩ := Option.map_eq_some_iff.mp given
  rfl

theorem carryOn_source (spent : Duration) (assembler : LineAssembler σ) :
    (reached (assembler.carryOn framing spent)).source = assembler.source := by
  unfold carryOn
  split
  · exact giveUp_source spent assembler
  · rfl

theorem hear_source (spent : Duration) (assembler : LineAssembler σ) (arrival : Arrival) :
    (reached (assembler.hear framing spent arrival)).source = assembler.source := by
  cases arrival with
  | chunk octets =>
      cases octets with
      | nil => exact giveUp_source spent assembler
      | cons octet octets =>
          simp only [hear]
          split
          · rename_i read given
            have same := handOut?_source given
            exact same
          · exact carryOn_source spent _
  | fault fault =>
      simp only [hear]
      split
      · exact giveUp_source spent assembler
      · exact carryOn_source spent assembler
      · rfl

theorem readOnce_conserved (device : ByteSource σ) {given : List UInt8} (spent : Duration)
    {assembler : LineAssembler (Logged σ)}
    (all : given ++ assembler.pending = heard assembler.source.reads)
    (unterminated : framing.unit.cutLine? assembler.pending = none) :
    Conserved framing.unit given (assembler.readOnce (logged device) framing spent) := by
  refine ⟨_, ?_, hear_divides _ unterminated⟩
  rw [readOnce, hear_source]
  simp [logged, ← all]

/-! ## One call -/

theorem awaitLine_conserved (device : ByteSource σ) {given : List UInt8} (fuel : Nat)
    (spent : Duration) {assembler : LineAssembler (Logged σ)}
    (all : given ++ assembler.pending = heard assembler.source.reads)
    (unterminated : framing.unit.cutLine? assembler.pending = none) :
    Conserved framing.unit given (assembler.awaitLine (logged device) framing fuel spent) := by
  induction fuel generalizing spent assembler with
  | zero => exact ⟨_, all, rfl, unterminated⟩
  | succ fuel ih =>
      have conserved := readOnce_conserved device spent all unterminated
      unfold awaitLine
      cases heard : assembler.readOnce (logged device) framing spent with
      | returned read => rwa [heard] at conserved
      | underway later next =>
          rw [heard] at conserved
          obtain ⟨octets, all', rfl, unterminated'⟩ := conserved
          exact ih later all' unterminated'

theorem nextLine_conserved (device : ByteSource σ) {given : List UInt8} {fuel : Nat}
    {assembler : LineAssembler (Logged σ)} {read : Read (LineAssembler (Logged σ)) LineArrival}
    (all : given ++ assembler.pending = heard assembler.source.reads)
    (came : assembler.nextLine (logged device) framing fuel = some read) :
    Conserved framing.unit given (.returned read) := by
  rcases nextLine_ways came with handed | ⟨none, -, returned⟩
  · refine ⟨_, ?_, handOut?_divides handed⟩
    rw [reached, handOut?_source handed, all]
  · have conserved := awaitLine_conserved device fuel 0 all (handOut?_eq_none.mp none)
    rwa [returned] at conserved

/-! ## Any number of calls -/

variable {device : ByteSource σ} {fuel : LineAssembler (Logged σ) → Nat} {source : σ}
  {calls : List (Cue LineArrival)} {assembler : LineAssembler (Logged σ)}

theorem calls_conserved
    (made : Calls (lineStream (logged device) framing fuel) (fresh source) calls assembler) :
    (linesOf calls).flatten ++ assembler.pending = heard assembler.source.reads := by
  induction made with
  | none => simp [fresh]
  | @more before after cues outcome took earlier came ih =>
      obtain ⟨octets, all, divided, -⟩ := nextLine_conserved device ih came
      simp only [reached] at all divided
      rw [← all, divided]
      cases line : line? outcome <;> simp [line]

theorem calls_framed
    (made : Calls (lineStream (logged device) framing fuel) (fresh source) calls assembler) :
    ∀ line ∈ linesOf calls, IsLine framing.unit line := by
  induction made with
  | none => simp
  | @more before after cues outcome took earlier came ih =>
      obtain ⟨octets, all, -, framed, -⟩ := nextLine_conserved device (calls_conserved earlier) came
      intro line member
      rw [linesOf_append, List.mem_append, linesOf_singleton, Option.mem_toList] at member
      rcases member with old | new
      · exact ih line old
      · cases outcome <;> simp_all [line?]

theorem calls_nothing {before : List (Cue LineArrival)} {cue : Cue LineArrival}
    (made : Calls (lineStream (logged device) framing fuel) (fresh source) (before ++ [cue]) assembler)
    (nothing : cue.outcome = .nothing) : assembler.pending = [] := by
  generalize all : before ++ [cue] = calls at made
  cases made with
  | none => simp at all
  | more earlier came =>
      obtain ⟨-, last⟩ := List.append_inj' all rfl
      obtain ⟨octets, -, -, -, empty⟩ := nextLine_conserved device (calls_conserved earlier) came
      exact empty (by rw [← nothing, (List.cons.inj last).1])

/-- However a device behaves and however often a line is asked for, the lines handed out and the
octets pending make up what was heard of the device, between two calls and after any number of reads
of a call that has not returned. Each line has at most one terminator, as its last unit; and a call
that brings nothing leaves nothing pending. -/
theorem lines_conserve_octets (device : ByteSource σ) (framing : Framing)
    (fuel : LineAssembler (Logged σ) → Nat) (source : σ) (calls : List (Cue LineArrival))
    (assembler : LineAssembler (Logged σ))
    (made : Calls (lineStream (logged device) framing fuel) (fresh source) calls assembler) :
    (linesOf calls).flatten ++ assembler.pending = heard assembler.source.reads ∧
    (∀ reads spent inside, assembler.handOut? framing.unit 0 = none →
      assembler.awaitLine (logged device) framing reads 0 = .underway spent inside →
        (linesOf calls).flatten ++ inside.pending = heard inside.source.reads) ∧
    (∀ line ∈ linesOf calls, IsLine framing.unit line) ∧
    (∀ before cue, calls = before ++ [cue] → cue.outcome = .nothing → assembler.pending = []) := by
  have all := calls_conserved made
  refine ⟨all, ?_, calls_framed made, ?_⟩
  · intro reads spent inside none underway
    have conserved := awaitLine_conserved device reads 0 all (handOut?_eq_none.mp none)
    rw [underway] at conserved
    obtain ⟨octets, all', rfl, -⟩ := conserved
    exact all'
  · rintro before cue rfl nothing
    exact calls_nothing made nothing

def brokenUnits : ScriptedDevice :=
  .ofCues [⟨1, .chunk [0x31]⟩, ⟨1, .fault ⟨.interrupted, none⟩⟩, ⟨1, .chunk [0x00, 0x0A, 0x00, 0x32]⟩] 1

theorem brokenUnits_conserved :
    ∃ assembler,
      Calls (lineStream (logged ScriptedDevice.source) ⟨.pair, 9⟩ fun _ => 5) (fresh brokenUnits)
        [⟨3, .line [0x31, 0x00, 0x0A, 0x00]⟩, ⟨1, .line [0x32]⟩, ⟨1, .nothing⟩] assembler ∧
      [0x31, 0x00, 0x0A, 0x00, 0x32] = heard assembler.source.reads ∧ assembler.pending = [] := by
  have start : Calls (lineStream (logged ScriptedDevice.source) ⟨.pair, 9⟩ fun _ => 5)
      (fresh brokenUnits) [] (fresh brokenUnits) := .none _
  have made := Calls.more (.more (.more start rfl) rfl) rfl
  obtain ⟨all, -, -, nothing⟩ := lines_conserve_octets _ _ _ _ _ _ made
  have empty := nothing _ _ rfl rfl
  rw [empty, List.append_nil] at all
  exact ⟨_, made, all, empty⟩

end Accelerometer.Proofs.Serial
