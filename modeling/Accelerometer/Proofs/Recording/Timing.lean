import Accelerometer.Proofs.Recording.Consecutive
import Accelerometer.Proofs.Recording.Simulation
import Accelerometer.Proofs.Serial.Timing

/-!
# The reads of a recording and its window

A recording asks for a line only while its window is open, and a call starts no read after its own time.

* `elapsed_eq_timeOf`: the time of a recording is that of its calls.
* `record_startedBefore`: the reads of all calls that have returned.
* `no_read_past_window`: those of a call that has not returned as well.
-/

namespace Accelerometer.Proofs.Recording
open LineAssembler Proofs.Serial

variable {σ : Type}

theorem elapsed_eq_timeOf (window : Duration) (encoding : Encoding) (cues : List (Cue LineArrival)) :
    (summaryOf ⟨window, encoding, 0⟩ cues).elapsed = timeOf cues := by
  have waits : cues.foldl (fun spent cue => spent + cue.wait) 0 = timeOf cues := by
    induction cues with
    | nil => rfl
    | cons cue cues ih => rw [List.foldl_cons, waits_from, ih, timeOf_cons, Nat.zero_add]
  simp [summaryOf, waits]

theorem record_startedBefore (device : ByteSource σ) (framing : Framing)
    (fuel : LineAssembler (Logged σ) → Nat) (window : Duration) (encoding : Encoding) (steps : Nat)
    {start : LineAssembler (Logged σ)} (unread : start.source.reads = []) (storage : Storage)
    (output : Path) :
    StartedBefore (window + framing.timeout) 0
      (record (lineStream (logged device) framing fuel) ⟨window, encoding, 0⟩ steps start storage
        output).source.source.reads := by
  cases created : SessionFile.create storage output with
  | error error =>
      rw [record_failed _ _ _ created, unread]
      trivial
  | ok opened =>
      obtain ⟨cues, follows⟩ := record_created (lineStream (logged device) framing fuel)
        ⟨window, encoding, 0⟩ start created steps
      apply calls_startedBefore unread follows.calls
      intro before cue after split
      rw [← elapsed_eq_timeOf window encoding]
      exact (follows.timely before cue after split).1

/-- Whatever a device does, however long its reads take, and however long a run goes on: no read of the
run is started when the window and the time of one call are over. This holds of the calls that have
returned, and of any number of reads in the next call, which is made while the window is open. In any
call, each read but the first is started before the time of the call is over; and a call that finds a
terminator among what is pending makes no read. -/
theorem no_read_past_window (device : ByteSource σ) (framing : Framing)
    (fuel : LineAssembler σ → Nat) (window : Duration) (encoding : Encoding) (steps : Nat)
    (source : σ) (pending : List UInt8) (storage : Storage) (output : Path) :
    let run := record (lineStream (logged device) framing (fuel ∘ unlogged)) ⟨window, encoding, 0⟩ steps
      ⟨⟨source, []⟩, pending⟩ storage output
    record (lineStream device framing fuel) ⟨window, encoding, 0⟩ steps ⟨source, pending⟩ storage
      output = viewResult unlogged run ∧
    StartedBefore (window + framing.timeout) 0 run.source.source.reads ∧
    (timeOf run.source.source.reads < window → ∀ reads,
      StartedBefore (window + framing.timeout) 0
        (reached (run.source.awaitLine (logged device) framing reads 0)).source.reads) ∧
    ∀ assembler : LineAssembler (Logged σ),
      (∀ reads, ∃ made,
        (reached (assembler.awaitLine (logged device) framing reads 0)).source.reads =
          assembler.source.reads ++ made ∧ WithinDeadline framing.timeout made) ∧
      ∀ position, TerminatedAt framing.unit assembler.pending position →
        ∃ read, read.source.source = assembler.source ∧ read.took = 0 ∧
          ∀ reads, assembler.nextLine (logged device) framing reads = some read := by
  intro run
  have started : StartedBefore (window + framing.timeout) 0 run.source.source.reads :=
    record_startedBefore device framing _ window encoding steps rfl storage output
  refine ⟨record_simulation (lineStream_simulates device framing fuel) ⟨window, encoding, 0⟩ steps
    ⟨⟨source, []⟩, pending⟩ storage output, started, ?_, ?_⟩
  · intro early reads
    obtain ⟨made, timed, within⟩ := awaitLine_withinDeadline device framing reads run.source
    rw [timed.reads_eq]
    exact startedBefore_call started early within
  · intro assembler
    constructor
    · intro reads
      obtain ⟨made, timed, within⟩ := awaitLine_withinDeadline device framing reads assembler
      exact ⟨made, timed.reads_eq, within⟩
    · intro position terminated
      obtain ⟨read, handed, took, same⟩ := handOut?_terminated terminated
      refine ⟨read, same, took, ?_⟩
      intro reads
      rw [nextLine, handed]

def lateDevice : ScriptedDevice :=
  .ofCues [⟨9, .fault ⟨.timedOut, none⟩⟩, ⟨4, .chunk [0x31]⟩, ⟨100, .chunk [0x0A]⟩] 1

theorem lateDevice_in_time :
    let reads : List (Cue Arrival) :=
      [⟨9, .fault ⟨.timedOut, none⟩⟩, ⟨4, .chunk [0x31]⟩, ⟨100, .chunk [0x0A]⟩]
    (record (lineStream (logged ScriptedDevice.source) ⟨.octet, 5⟩ fun _ => 9) ⟨10, .utf8, 0⟩ 9
      (fresh lateDevice) Storage.emptyStorage ⟨"run.csv"⟩).source.source.reads = reads ∧
    StartedBefore 15 0 reads :=
  ⟨rfl, (no_read_past_window ScriptedDevice.source ⟨.octet, 5⟩ (fun _ => 9) 10 .utf8 9 lateDevice []
    Storage.emptyStorage ⟨"run.csv"⟩).2.1⟩

end Accelerometer.Proofs.Recording
