import Accelerometer.Proofs.Serial.Timing

/-!
# Calls come to an end

A device that does nothing but time out from some read on lets every call return, and the calls use up
what it still brings.

* `readOnce_left`: a read that ends a call leaves less than there was before.
* `awaitLine_returns`, `nextLine_returns`: one call.
* `scripted_quiet`: devices that follow a script.
-/

namespace Accelerometer.Proofs.Serial
open LineAssembler

variable {σ : Type} {framing : Framing} {device : ByteSource σ} {least : Duration} {count : Nat}
  {source : σ} {assembler : LineAssembler σ}

def afterReads (device : ByteSource σ) : Nat → σ → σ
  | 0, source => source
  | reads + 1, source => afterReads device reads (device.read source).source

def TimesOut (least : Duration) (read : Read σ Arrival) : Prop :=
  (∃ detail, read.outcome = .fault ⟨.timedOut, detail⟩) ∧ least ≤ read.took

/-- After the given number of reads a device does nothing but time out, which takes at least `least`
each time. -/
def QuietAfter (device : ByteSource σ) (least : Duration) (count : Nat) (source : σ) : Prop :=
  ∀ reads, count ≤ reads → TimesOut least (device.read (afterReads device reads source))

def brings (device : ByteSource σ) : Nat → σ → Nat
  | 0, _ => 0
  | count + 1, source =>
    let read := device.read source
    max 1 (arrived read.outcome).length + brings device count read.source

def left (device : ByteSource σ) (count : Nat) (assembler : LineAssembler σ) : Nat :=
  assembler.pending.length + brings device count assembler.source

theorem quietAfter_zero (quiet : QuietAfter device least 0 source) :
    TimesOut least (device.read source) ∧ QuietAfter device least 0 (device.read source).source :=
  ⟨quiet 0 (Nat.le_refl 0), fun reads _ => quiet (reads + 1) (Nat.zero_le _)⟩

theorem quietAfter_succ :
    QuietAfter device least (count + 1) source ↔
      QuietAfter device least count (device.read source).source := by
  constructor
  · intro quiet reads enough
    exact quiet (reads + 1) (Nat.succ_le_succ enough)
  · intro quiet reads enough
    cases reads with
    | zero => cases enough
    | succ reads => exact quiet reads (Nat.le_of_succ_le_succ enough)

theorem count_le_brings (device : ByteSource σ) (count : Nat) (source : σ) :
    count ≤ brings device count source := by
  induction count generalizing source with
  | zero => exact Nat.le_refl 0
  | succ count ih =>
      rw [brings, Nat.add_comm]
      exact Nat.add_le_add (Nat.le_max_left ..) (ih _)

/-! ## One read -/

theorem giveUp_pending (spent : Duration) (assembler : LineAssembler σ) :
    (assembler.giveUp spent).source.pending = [] := by
  unfold giveUp
  split
  · rename_i empty
    exact List.isEmpty_iff.mp empty
  · rfl

theorem carryOn_pending (framing : Framing) (spent : Duration) (assembler : LineAssembler σ) :
    (reached (assembler.carryOn framing spent)).pending.length ≤ assembler.pending.length ∧
    ∀ read, assembler.carryOn framing spent = .returned read → read.source.pending = [] := by
  unfold carryOn
  split
  · simp [reached, giveUp_pending]
  · simp [reached]

theorem hear_pending (framing : Framing) (spent : Duration) (assembler : LineAssembler σ) (arrival : Arrival) :
    (reached (assembler.hear framing spent arrival)).pending.length ≤
      assembler.pending.length + (arrived arrival).length ∧
    ∀ read, assembler.hear framing spent arrival = .returned read →
      read.source.pending.length < assembler.pending.length + max 1 (arrived arrival).length := by
  cases arrival with
  | chunk octets =>
      cases octets with
      | nil => simp [hear, reached, giveUp_pending, arrived]
      | cons octet octets =>
          simp only [hear, arrived]
          split
          · rename_i read given
            obtain ⟨⟨line, rest⟩, cut, rfl⟩ := Option.map_eq_some_iff.mp given
            obtain ⟨whole, isLine, -⟩ := cutLine?_eq_some cut
            have length := congrArg List.length whole
            have nonempty := List.length_pos_iff.mpr isLine.1
            simp only [List.length_append, List.length_cons] at length
            simp only [reached, Attempt.returned.injEq, forall_eq', List.length_cons]
            omega
          · obtain ⟨most, none⟩ := carryOn_pending framing spent
              { assembler with pending := assembler.pending ++ octet :: octets }
            refine ⟨by simpa using most, ?_⟩
            intro read given
            rw [none read given, List.length_nil]
            omega
  | fault fault =>
      simp only [hear, arrived]
      split
      · simp [reached, giveUp_pending]
      · obtain ⟨most, none⟩ := carryOn_pending framing spent assembler
        refine ⟨by simpa using most, ?_⟩
        intro read given
        rw [none read given, List.length_nil]
        omega
      · simp [reached]

theorem readOnce_left (device : ByteSource σ) (framing : Framing) (count : Nat) (spent : Duration)
    (assembler : LineAssembler σ) :
    left device count (reached (assembler.readOnce device framing spent)) ≤
      left device (count + 1) assembler ∧
    ∀ read, assembler.readOnce device framing spent = .returned read →
      left device count read.source < left device (count + 1) assembler := by
  let read := device.read assembler.source
  let heard : LineAssembler σ := { assembler with source := read.source }
  have before : left device (count + 1) assembler =
      heard.pending.length + (max 1 (arrived read.outcome).length + brings device count heard.source) :=
    rfl
  have same : assembler.readOnce device framing spent =
      heard.hear framing (spent + read.took) read.outcome := rfl
  have source : (reached (heard.hear framing (spent + read.took) read.outcome)).source = heard.source :=
    hear_source (spent + read.took) heard read.outcome
  obtain ⟨most, less⟩ := hear_pending framing (spent + read.took) heard read.outcome
  rw [same, before]
  constructor
  · rw [left, source]
    omega
  · intro read' given
    have less := less read' given
    rw [given, reached] at source
    rw [left, source]
    omega

/-! ## One call -/

def UsesUp (device : ByteSource σ) (least : Duration) (count : Nat) (assembler : LineAssembler σ)
    (spent : Duration) (read : Read (LineAssembler σ) LineArrival) : Prop :=
  ∃ fewer ≤ count, QuietAfter device least fewer read.source.source ∧
    (left device fewer read.source < left device count assembler ∨
      left device fewer read.source ≤ left device count assembler ∧ spent + least ≤ read.took)

theorem awaitLine_returned {spent : Duration} {read : Read (LineAssembler σ) LineArrival} {fuel : Nat}
    (attempt : assembler.readOnce device framing spent = .returned read) (enough : count < fuel) :
    assembler.awaitLine device framing fuel spent = .returned read := by
  cases fuel with
  | zero => cases enough
  | succ fuel => rw [awaitLine, attempt]

theorem awaitLine_underway {spent later : Duration} {next : LineAssembler σ}
    {read : Read (LineAssembler σ) LineArrival} {fuel : Nat}
    (attempt : assembler.readOnce device framing spent = .underway later next)
    (returned : ∀ fuel, count < fuel → next.awaitLine device framing fuel later = .returned read)
    (enough : count + 1 < fuel) :
    assembler.awaitLine device framing fuel spent = .returned read := by
  cases fuel with
  | zero => cases enough
  | succ fuel =>
      rw [awaitLine, attempt]
      exact returned fuel (Nat.lt_of_succ_lt_succ enough)

theorem awaitLine_returns (framing : Framing)
    (quiet : QuietAfter device least count assembler.source) (spent : Duration) :
    ∃ read, (∀ fuel, count < fuel → assembler.awaitLine device framing fuel spent = .returned read) ∧
      UsesUp device least count assembler spent read := by
  -- one read after the other until the device is quiet; only the read that times out takes a while
  induction count generalizing assembler spent with
  | zero =>
      obtain ⟨⟨⟨detail, outcome⟩, long⟩, quiet'⟩ := quietAfter_zero quiet
      let read := device.read assembler.source
      let heard : LineAssembler σ := { assembler with source := read.source }
      have given : assembler.readOnce device framing spent =
          .returned (heard.giveUp (spent + read.took)) := by
        rw [readOnce, outcome]
        rfl
      refine ⟨_, fun fuel enough => awaitLine_returned given enough, 0, Nat.le_refl 0, ?_, .inr ⟨?_, ?_⟩⟩
      · rw [giveUp_source]
        exact quiet'
      · rw [left, giveUp_pending]
        exact Nat.zero_le _
      · rw [giveUp_took]
        exact Nat.add_le_add_left long spent
  | succ count ih =>
      rw [quietAfter_succ] at quiet
      obtain ⟨most, less⟩ := readOnce_left device framing count spent assembler
      have source := readOnce_source device framing spent assembler
      have time := readOnce_spent device framing spent assembler
      cases attempt : assembler.readOnce device framing spent with
      | returned read =>
          rw [attempt, reached] at source
          exact ⟨read, fun fuel enough => awaitLine_returned attempt enough, count, Nat.le_succ count,
            source ▸ quiet, .inl (less read attempt)⟩
      | underway later next =>
          rw [attempt, reached] at source most
          rw [attempt, spentBy] at time
          obtain ⟨read, returned, fewer, less', quiet', used⟩ := ih (source ▸ quiet) later
          refine ⟨read, fun fuel enough => awaitLine_underway attempt returned enough, fewer,
            Nat.le_succ_of_le less', quiet', ?_⟩
          rcases used with used | ⟨used, long⟩
          · exact .inl (Nat.lt_of_lt_of_le used most)
          · have earlier : spent + least ≤ later + least := by
              rw [time]
              exact Nat.add_le_add_right (Nat.le_add_right ..) least
            exact .inr ⟨Nat.le_trans used most, Nat.le_trans earlier long⟩

theorem nextLine_returns (framing : Framing)
    (quiet : QuietAfter device least count assembler.source)
    (told : ¬BreaksOff device framing assembler) :
    ∃ read, (∀ fuel, count < fuel → assembler.nextLine device framing fuel = some read) ∧
      UsesUp device least count assembler 0 read := by
  cases handed : assembler.handOut? framing.unit 0 with
  | some read =>
      obtain ⟨⟨line, rest⟩, cut, rfl⟩ := Option.map_eq_some_iff.mp handed
      obtain ⟨whole, isLine, -⟩ := cutLine?_eq_some cut
      refine ⟨_, fun fuel _ => by rw [nextLine, handed], count, Nat.le_refl count, quiet, .inl ?_⟩
      have nonempty := List.length_pos_iff.mpr isLine.1
      simp only [left, whole, List.length_append]
      omega
  | none =>
      obtain ⟨read, returned, used⟩ := awaitLine_returns framing quiet 0
      have told := Nat.le_of_not_lt fun beyond => told ⟨handed, beyond⟩
      exact ⟨read, fun fuel enough => nextLine_returned handed told (returned fuel enough), used⟩

/-! ## Devices that follow a script -/

theorem read_exhausted {device : ScriptedDevice} (buffered : device.buffered = [])
    (cues : device.cues = []) :
    TimesOut (max 1 device.idle) device.read ∧ device.read.source.buffered = [] ∧
      device.read.source.cues = [] ∧ device.read.source.idle = device.idle := by
  simp [ScriptedDevice.read, buffered, cues, TimesOut]

theorem quietAfter_exhausted {device : ScriptedDevice} (buffered : device.buffered = [])
    (cues : device.cues = []) : QuietAfter ScriptedDevice.source (max 1 device.idle) 0 device := by
  intro reads enough
  induction reads generalizing device with
  | zero => exact (read_exhausted buffered cues).1
  | succ reads ih =>
      obtain ⟨-, buffered', cues', idle⟩ := read_exhausted buffered cues
      rw [← idle]
      exact ih buffered' cues' (Nat.zero_le reads)

theorem deliver_remaining (device : ScriptedDevice) (took : Duration) (octets : List UInt8) :
    (arrived (device.deliver took octets).outcome).length +
        (device.deliver took octets).source.remainingReads =
      { device with buffered := octets }.remainingReads := by
  have length := congrArg List.length (List.take_append_drop readSize octets)
  rw [List.length_append] at length
  simp only [ScriptedDevice.deliver, ScriptedDevice.remainingReads, arrived]
  omega

theorem read_remaining {device : ScriptedDevice} (more : device.buffered ≠ [] ∨ device.cues ≠ []) :
    max 1 (arrived device.read.outcome).length + device.read.source.remainingReads ≤
        device.remainingReads ∧
      device.read.source.idle = device.idle := by
  obtain ⟨buffered, cues, idle, reads⟩ := device
  cases buffered with
  | cons octet octets =>
      have delivered := deliver_remaining ⟨octet :: octets, cues, idle, reads + 1⟩ 0 (octet :: octets)
      have some : 0 < (arrived (.chunk ((octet :: octets).take readSize))).length := by
        simp [arrived, readSize]
      refine ⟨?_, rfl⟩
      simp only [ScriptedDevice.read, ScriptedDevice.remainingReads, ScriptedDevice.deliver] at delivered ⊢
      omega
  | nil =>
      cases cues with
      | nil => simp at more
      | cons cue cues =>
          obtain ⟨wait, outcome⟩ := cue
          cases outcome with
          | chunk octets =>
              have delivered := deliver_remaining ⟨[], cues, idle, reads + 1⟩ wait octets
              refine ⟨?_, rfl⟩
              simp only [ScriptedDevice.read, ScriptedDevice.remainingReads, ScriptedDevice.deliver,
                List.foldr_cons, ScriptedDevice.Cue.size] at delivered ⊢
              omega
          | fault fault =>
              refine ⟨?_, rfl⟩
              simp [ScriptedDevice.read, ScriptedDevice.remainingReads, arrived, ScriptedDevice.Cue.size]
              omega

theorem scripted_quiet (device : ScriptedDevice) :
    ∃ count, QuietAfter ScriptedDevice.source (max 1 device.idle) count device ∧
      brings ScriptedDevice.source count device < device.remainingReads := by
  induction size : device.remainingReads using Nat.strong_induction_on generalizing device with
  | _ remaining ih =>
      by_cases exhausted : device.buffered = [] ∧ device.cues = []
      · refine ⟨0, quietAfter_exhausted exhausted.1 exhausted.2, ?_⟩
        rw [← size]
        exact Nat.succ_pos _
      · obtain ⟨less, idle⟩ := read_remaining (by tauto)
        have fewer : device.read.source.remainingReads < remaining := by
          omega
        obtain ⟨count, quiet, most⟩ := ih _ fewer device.read.source rfl
        rw [idle] at quiet
        refine ⟨count + 1, quietAfter_succ.mpr quiet, ?_⟩
        simp only [brings]
        have read : ScriptedDevice.source.read device = device.read := rfl
        rw [read]
        omega

end Accelerometer.Proofs.Serial
