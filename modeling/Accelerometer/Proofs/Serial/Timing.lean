import Accelerometer.Proofs.Serial.Conservation

/-!
# When reads are started

A call of an assembler starts its first read at once, and another one only while its time is not over.

* `hear_underway`: an attempt that goes on has time left.
* `awaitLine_timed`, `nextLine_timed`: the reads of one call.
* `handOut?_terminated`: a call that makes none.
-/

namespace Accelerometer.Proofs.Serial
open LineAssembler

variable {σ : Type} {framing : Framing}

def timeOf {ρ : Type} (cues : List (Cue ρ)) : Duration :=
  (cues.map Cue.wait).sum

def StartedBefore (limit : Duration) : Duration → List (Cue Arrival) → Prop
  | _, [] => True
  | start, cue :: reads => start < limit ∧ StartedBefore limit (start + cue.wait) reads

def WithinDeadline (timeout : Duration) : List (Cue Arrival) → Prop
  | [] => True
  | first :: others => StartedBefore timeout first.wait others

@[simp] theorem timeOf_nil {ρ : Type} : timeOf ([] : List (Cue ρ)) = 0 := rfl

@[simp] theorem timeOf_cons {ρ : Type} (cue : Cue ρ) (cues : List (Cue ρ)) :
    timeOf (cue :: cues) = cue.wait + timeOf cues := by
  simp [timeOf]

@[simp] theorem timeOf_append {ρ : Type} (before after : List (Cue ρ)) :
    timeOf (before ++ after) = timeOf before + timeOf after := by
  simp [timeOf]

/-! ## Reads one after the other -/

theorem startedBefore_append {limit start : Duration} {before after : List (Cue Arrival)} :
    StartedBefore limit start (before ++ after) ↔
      StartedBefore limit start before ∧ StartedBefore limit (start + timeOf before) after := by
  induction before generalizing start with
  | nil => simp [StartedBefore]
  | cons cue before ih => simp [StartedBefore, ih, and_assoc, Nat.add_assoc]

theorem startedBefore_later {limit start earlier bound : Duration} {reads : List (Cue Arrival)}
    (started : StartedBefore limit start reads) (less : earlier < bound) :
    StartedBefore (bound + limit) (earlier + start) reads := by
  induction reads generalizing start with
  | nil => trivial
  | cons cue reads ih =>
      refine ⟨Nat.add_lt_add less started.1, ?_⟩
      rw [Nat.add_assoc]
      exact ih started.2

theorem startedBefore_call {window timeout : Duration} {reads made : List (Cue Arrival)}
    (started : StartedBefore (window + timeout) 0 reads) (early : timeOf reads < window)
    (within : WithinDeadline timeout made) : StartedBefore (window + timeout) 0 (reads ++ made) := by
  rw [startedBefore_append, Nat.zero_add]
  refine ⟨started, ?_⟩
  cases made with
  | nil => trivial
  | cons first others =>
      exact ⟨Nat.lt_add_right timeout early, startedBefore_later within early⟩

/-! ## One call -/

def spentBy : Attempt σ → Duration
  | .returned read => read.took
  | .underway spent _ => spent

theorem giveUp_took (spent : Duration) (assembler : LineAssembler σ) :
    (assembler.giveUp spent).took = spent := by
  unfold giveUp
  split <;> rfl

theorem carryOn_spent (spent : Duration) (assembler : LineAssembler σ) :
    spentBy (assembler.carryOn framing spent) = spent := by
  unfold carryOn
  split
  · exact giveUp_took spent assembler
  · rfl

theorem hear_spent (spent : Duration) (assembler : LineAssembler σ) (arrival : Arrival) :
    spentBy (assembler.hear framing spent arrival) = spent := by
  cases arrival with
  | chunk octets =>
      cases octets with
      | nil => exact giveUp_took spent assembler
      | cons octet octets =>
          simp only [hear]
          split
          · rename_i read given
            obtain ⟨cut, -, rfl⟩ := Option.map_eq_some_iff.mp given
            rfl
          · exact carryOn_spent spent _
  | fault fault =>
      simp only [hear]
      split
      · exact giveUp_took spent assembler
      · exact carryOn_spent spent assembler
      · rfl

theorem carryOn_underway {spent later : Duration} {assembler next : LineAssembler σ}
    (goesOn : assembler.carryOn framing spent = .underway later next) : later < framing.timeout := by
  unfold carryOn at goesOn
  split at goesOn
  · cases goesOn
  · rename_i early
    obtain ⟨rfl, -⟩ := Attempt.underway.inj goesOn
    exact Nat.lt_of_not_le early

theorem hear_underway {spent later : Duration} {assembler next : LineAssembler σ} {arrival : Arrival}
    (goesOn : assembler.hear framing spent arrival = .underway later next) :
    later < framing.timeout := by
  cases arrival with
  | chunk octets =>
      cases octets with
      | nil => cases goesOn
      | cons octet octets =>
          simp only [hear] at goesOn
          split at goesOn
          · cases goesOn
          · exact carryOn_underway goesOn
  | fault fault =>
      simp only [hear] at goesOn
      split at goesOn
      · cases goesOn
      · exact carryOn_underway goesOn
      · cases goesOn

structure Timed (spent : Duration) (reads made : List (Cue Arrival)) (attempt : Attempt (Logged σ)) :
    Prop where
  reads_eq : (reached attempt).source.reads = reads ++ made
  spent_eq : spentBy attempt = spent + timeOf made

theorem readOnce_source (device : ByteSource σ) (framing : Framing) (spent : Duration)
    (assembler : LineAssembler σ) :
    (reached (assembler.readOnce device framing spent)).source =
      (device.read assembler.source).source := by
  rw [readOnce, hear_source]

theorem readOnce_spent (device : ByteSource σ) (framing : Framing) (spent : Duration)
    (assembler : LineAssembler σ) :
    spentBy (assembler.readOnce device framing spent) =
      spent + (device.read assembler.source).took := by
  rw [readOnce, hear_spent]

theorem readOnce_timed (device : ByteSource σ) (framing : Framing) (spent : Duration)
    (assembler : LineAssembler (Logged σ)) :
    ∃ cue, Timed spent assembler.source.reads [cue]
      (assembler.readOnce (logged device) framing spent) := by
  let read := device.read assembler.source.device
  refine ⟨⟨read.took, read.outcome⟩, ?_, ?_⟩
  · rw [readOnce_source]
    rfl
  · rw [readOnce_spent]
    simp [logged, read]

theorem awaitLine_timed (device : ByteSource σ) (framing : Framing) (fuel : Nat) (spent : Duration)
    (assembler : LineAssembler (Logged σ)) :
    ∃ made, Timed spent assembler.source.reads made
        (assembler.awaitLine (logged device) framing fuel spent) ∧
      ∀ first others, made = first :: others →
        StartedBefore framing.timeout (spent + first.wait) others := by
  -- the time spent so far is part of the induction: what is read later is started behind it
  induction fuel generalizing spent assembler with
  | zero => exact ⟨[], ⟨by simp [awaitLine, reached], by simp [awaitLine, spentBy]⟩, by simp⟩
  | succ fuel ih =>
      obtain ⟨cue, one⟩ := readOnce_timed device framing spent assembler
      unfold awaitLine
      cases attempt : assembler.readOnce (logged device) framing spent with
      | returned read =>
          rw [attempt] at one
          refine ⟨[cue], one, ?_⟩
          intro first others only
          obtain ⟨-, rfl⟩ := List.cons.inj only
          trivial
      | underway later next =>
          rw [attempt] at one
          have early : later < framing.timeout := hear_underway attempt
          have later_eq : later = spent + cue.wait := by simpa [spentBy] using one.spent_eq
          have reads_eq : next.source.reads = assembler.source.reads ++ [cue] := one.reads_eq
          obtain ⟨made, timed, started⟩ := ih later next
          refine ⟨cue :: made, ⟨?_, ?_⟩, ?_⟩
          · rw [timed.reads_eq, reads_eq, List.append_assoc]
            rfl
          · rw [timed.spent_eq, later_eq, timeOf_cons, Nat.add_assoc]
          · intro first others same
            obtain ⟨rfl, rfl⟩ := List.cons.inj same
            rw [← later_eq]
            cases made with
            | nil => trivial
            | cons second others => exact ⟨early, started second others rfl⟩

theorem awaitLine_withinDeadline (device : ByteSource σ) (framing : Framing) (fuel : Nat)
    (assembler : LineAssembler (Logged σ)) :
    ∃ made, Timed 0 assembler.source.reads made
        (assembler.awaitLine (logged device) framing fuel 0) ∧
      WithinDeadline framing.timeout made := by
  obtain ⟨made, timed, started⟩ := awaitLine_timed device framing fuel 0 assembler
  refine ⟨made, timed, ?_⟩
  cases made with
  | nil => trivial
  | cons first others => simpa [WithinDeadline] using started first others rfl

theorem nextLine_timed (device : ByteSource σ) {fuel : Nat} {assembler : LineAssembler (Logged σ)}
    {read : Read (LineAssembler (Logged σ)) LineArrival}
    (came : assembler.nextLine (logged device) framing fuel = some read) :
    ∃ made, Timed 0 assembler.source.reads made (.returned read) ∧
      WithinDeadline framing.timeout made := by
  rcases nextLine_ways came with handed | ⟨-, -, returned⟩
  · obtain ⟨cut, -, rfl⟩ := Option.map_eq_some_iff.mp handed
    exact ⟨[], ⟨by simp [reached], by simp [spentBy]⟩, trivial⟩
  · obtain ⟨made, timed, within⟩ := awaitLine_withinDeadline device framing fuel assembler
    rw [returned] at timed
    exact ⟨made, timed, within⟩

/-- A terminator among the octets that are pending makes reads needless. -/
theorem handOut?_terminated {assembler : LineAssembler σ} {position : Nat}
    (terminated : TerminatedAt framing.unit assembler.pending position) :
    ∃ read, assembler.handOut? framing.unit 0 = some read ∧ read.took = 0 ∧
      read.source.source = assembler.source := by
  cases handed : assembler.handOut? framing.unit 0 with
  | none => exact absurd terminated (cutLine?_eq_none (handOut?_eq_none.mp handed) position)
  | some read =>
      obtain ⟨cut, -, rfl⟩ := Option.map_eq_some_iff.mp handed
      exact ⟨_, rfl, rfl, rfl⟩

/-! ## Any number of calls -/

variable {device : ByteSource σ} {fuel : LineAssembler (Logged σ) → Nat}
  {start assembler : LineAssembler (Logged σ)} {calls : List (Cue LineArrival)}

theorem calls_timed (unread : start.source.reads = [])
    (made : Calls (lineStream (logged device) framing fuel) start calls assembler) :
    timeOf assembler.source.reads = timeOf calls := by
  induction made with
  | none => rw [unread, timeOf_nil, timeOf_nil]
  | @more before after cues outcome took earlier came ih =>
      obtain ⟨made, ⟨reads, spent⟩, -⟩ := nextLine_timed device came
      simp only [reached, spentBy, Nat.zero_add] at reads spent
      rw [reads, timeOf_append, timeOf_append, ih, ← spent, timeOf_cons, timeOf_nil, Nat.add_zero]

theorem calls_startedBefore {window : Duration} (unread : start.source.reads = [])
    (made : Calls (lineStream (logged device) framing fuel) start calls assembler)
    (early : ∀ before cue after, calls = before ++ cue :: after → timeOf before < window) :
    StartedBefore (window + framing.timeout) 0 assembler.source.reads := by
  induction made with
  | none =>
      rw [unread]
      trivial
  | @more before after cues outcome took earlier came ih =>
      obtain ⟨made, timed, within⟩ := nextLine_timed device came
      have started := ih fun front cue rest split =>
        early front cue (rest ++ [⟨took, outcome⟩]) (by simp [split])
      have last : timeOf before.source.reads < window := by
        rw [calls_timed unread earlier]
        exact early cues _ [] rfl
      have reads : after.source.reads = before.source.reads ++ made := timed.reads_eq
      rw [reads]
      exact startedBefore_call started last within

end Accelerometer.Proofs.Serial
